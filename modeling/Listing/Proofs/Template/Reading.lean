import Listing.Template.Tree

namespace Listing

def Defect.moved (n : Nat) (d : Defect) : Defect := ⟨d.fault, d.offset + n⟩

namespace Template

/-- Induction over the reading of a text. A directive is followed into its body, or the arguments of
its body, and into what comes after it. -/
@[elab_as_elim]
theorem readInduction {P : Text → Prop} (nil : P [])
    (spanBroken : ∀ t fault, bracketed t = .error fault → P ('[' :: t))
    (span : ∀ t p, bracketed t = .ok p → P p.body → P p.rest → P ('[' :: t))
    (conditionBroken : ∀ t fault, braced t = .error fault → P ('?' :: t))
    (condition : ∀ t p, braced t = .ok p → P p.body → P p.rest → P ('?' :: t))
    (callBroken : ∀ t fault, braced t = .error fault → P ('@' :: t))
    (call : ∀ t p, braced t = .ok p → (∀ a ∈ arguments p.body, P a) → P p.rest → P ('@' :: t))
    (value : ∀ t, valueName t ≠ [] → P (t.drop (valueName t).length) → P ('$' :: t))
    (dollar : ∀ t, valueName t = [] → P t → P ('$' :: t))
    (literal : ∀ c t, c ∉ ['[', '?', '@', '$'] → P t → P (c :: t)) (t : Text) : P t := by
  induction hlen : t.length using Nat.strongRecOn generalizing t with
  | ind n ih =>
    subst hlen
    have hrec : ∀ u : Text, u.length < t.length → P u := fun u hu => ih u.length hu u rfl
    cases t with
    | nil => exact nil
    | cons c t =>
      rw [List.length_cons] at hrec
      by_cases hspan : c = '['
      · subst hspan
        cases hp : bracketed t with
        | error fault => exact spanBroken t fault hp
        | ok p =>
          have hb := length_body_bracketed hp
          have hr := length_rest_bracketed hp
          exact span t p hp (hrec _ (by omega)) (hrec _ (by omega))
      by_cases hcondition : c = '?'
      · subst hcondition
        cases hp : braced t with
        | error fault => exact conditionBroken t fault hp
        | ok p =>
          have hb := length_body_braced hp
          have hr := length_rest_braced hp
          exact condition t p hp (hrec _ (by omega)) (hrec _ (by omega))
      by_cases hcall : c = '@'
      · subst hcall
        cases hp : braced t with
        | error fault => exact callBroken t fault hp
        | ok p =>
          have hb := length_body_braced hp
          have hr := length_rest_braced hp
          refine call t p hp (fun a ha => hrec a ?_) (hrec _ (by omega))
          have := length_le_of_mem_arguments ha
          omega
      by_cases hvalue : c = '$'
      · subst hvalue
        by_cases hname : valueName t = []
        · exact dollar t hname (hrec t (by omega))
        · exact value t hname (hrec _ (by simp only [List.length_drop]; omega))
      exact literal c t (by simp [hspan, hcondition, hcall, hvalue]) (hrec t (by omega))

theorem located_add (start n : Nat) (as : List Text) :
    located (start + n) as = (located start as).map fun x => (x.1 + n, x.2) := by
  induction as generalizing start with
  | nil => rfl
  | cons a as ih =>
    have hnext : start + n + a.size + 1 = start + a.size + 1 + n := by omega
    rw [located, located, hnext, ih, List.map_cons]

theorem findSome?_congr {α β : Type} {f g : α → Option β} {l : List α} (h : ∀ a ∈ l, f a = g a) :
    l.findSome? f = l.findSome? g := by
  induction l with
  | nil => rfl
  | cons a l ih =>
    rw [List.findSome?_cons, List.findSome?_cons, h a (by simp), ih fun x hx => h x (by simp [hx])]

def moved (n : Nat) : Template → Template
  | done => done
  | broken d => broken (d.moved n)
  | literal c rest => literal c (rest.moved n)
  | value name rest => value name (rest.moved n)
  | span color subject body rest => span color subject (body.moved n) (rest.moved n)
  | condition key body rest => condition key (body.moved n) (rest.moved n)
  | call name args flaw rest => call name args (flaw.map (Defect.moved n)) (rest.moved n)

theorem defect?_moved (n : Nat) (t : Template) :
    (t.moved n).defect? = t.defect?.map (Defect.moved n) := by
  induction t with
  | done | broken => rfl
  | literal _ _ ih | value _ _ ih => exact ih
  | span _ _ _ _ ihb ihr | condition _ _ _ ihb ihr =>
    rw [moved, defect?, defect?, ihb, ihr, Option.map_or]
  | call _ _ _ _ ih => rw [moved, defect?, defect?, ih, Option.map_or]

theorem read_add (t : Text) (pos n : Nat) : read (pos + n) t = (read pos t).moved n := by
  have hshift (start size : Nat) : start + n + size = start + size + n :=
    Nat.add_right_comm start n size
  induction t using readInduction generalizing pos with
  | nil => simp only [read_nil, moved]
  | spanBroken t fault h => simp only [read_span_broken _ h, moved, Defect.moved]
  | span t p h ihb ihr =>
    simp only [read_span _ h, moved, hshift, ihb, ihr]
  | conditionBroken t fault h => simp only [read_condition_broken _ h, moved, Defect.moved]
  | condition t p h ihb ihr =>
    simp only [read_condition _ h, moved, hshift, ihb, ihr]
  | callBroken t fault h => simp only [read_call_broken _ h, moved, Defect.moved]
  | call t p h iha ihr =>
    simp only [read_call _ h, moved, hshift, ihr]
    rw [located_add, List.findSome?_map, List.map_findSome?]
    congr 1
    refine findSome?_congr fun x hx => ?_
    simp only [Function.comp_apply, iha x.2 (mem_of_mem_located hx), defect?_moved]
  | value t h ih =>
    simp only [read_value _ h, moved, hshift, ih]
  | dollar t h ih => simp only [read_dollar _ h, moved, hshift, ih]
  | literal c t h ih => simp only [read_literal _ h, moved, hshift, ih]

theorem defect?_read_add (t : Text) (pos n : Nat) :
    (read (pos + n) t).defect? = (read pos t).defect?.map (Defect.moved n) := by
  rw [read_add, defect?_moved]

/-- What is wrong with the leftmost malformed directive of a text, wherever the text stands. -/
def fault? (t : Text) : Option Fault := (ofText t).defect?.map Defect.fault

theorem fault?_read (pos : Nat) (t : Text) : (read pos t).defect?.map Defect.fault = fault? t := by
  have h := defect?_read_add t 0 pos
  rw [Nat.zero_add] at h
  rw [h, fault?, ofText, Option.map_map]
  rfl

section Equations

variable {t : Text} {p : Part} {fault : Fault}

theorem fault?_nil : fault? [] = none := by rw [fault?, ofText, read_nil]; rfl

theorem fault?_span_broken (h : bracketed t = .error fault) : fault? ('[' :: t) = some fault := by
  rw [fault?, ofText, read_span_broken 0 h]; rfl

theorem fault?_span (h : bracketed t = .ok p) :
    fault? ('[' :: t) = (fault? p.body).or (fault? p.rest) := by
  rw [fault?, ofText, read_span 0 h, defect?, Option.map_or, fault?_read, fault?_read]

theorem fault?_condition_broken (h : braced t = .error fault) :
    fault? ('?' :: t) = some fault := by
  rw [fault?, ofText, read_condition_broken 0 h]; rfl

theorem fault?_condition (h : braced t = .ok p) :
    fault? ('?' :: t) = (fault? p.body).or (fault? p.rest) := by
  rw [fault?, ofText, read_condition 0 h, defect?, Option.map_or, fault?_read, fault?_read]

theorem fault?_call_broken (h : braced t = .error fault) : fault? ('@' :: t) = some fault := by
  rw [fault?, ofText, read_call_broken 0 h]; rfl

theorem findSome?_located (f : Text → Option Fault) (start : Nat) (as : List Text) :
    ((located start as).findSome? fun x => f x.2) = as.findSome? f := by
  induction as generalizing start with
  | nil => rfl
  | cons a as ih => rw [located, List.findSome?_cons, List.findSome?_cons, ih]

theorem fault?_call (h : braced t = .ok p) :
    fault? ('@' :: t) = ((arguments p.body).findSome? fault?).or (fault? p.rest) := by
  rw [fault?, ofText, read_call 0 h, defect?, Option.map_or, fault?_read, List.map_findSome?]
  simp only [Function.comp_def, fault?_read]
  rw [findSome?_located]

theorem fault?_value (h : valueName t ≠ []) :
    fault? ('$' :: t) = fault? (t.drop (valueName t).length) := by
  rw [fault?, ofText, read_value 0 h, defect?, fault?_read]

theorem fault?_dollar (h : valueName t = []) : fault? ('$' :: t) = fault? t := by
  rw [fault?, ofText, read_dollar 0 h, defect?, fault?_read]

theorem fault?_literal {c : Char} (h : c ∉ ['[', '?', '@', '$']) : fault? (c :: t) = fault? t := by
  rw [fault?, ofText, read_literal 0 h, defect?, fault?_read]

end Equations

theorem validate_eq_ok_iff (t : Text) : validate t = .ok () ↔ fault? t = none := by
  rw [validate, fault?]
  cases (ofText t).defect? <;> simp

theorem fault?_of_validate {t : Text} {e : Malformed} (h : validate t = .error e) :
    fault? t = some e.fault := by
  rw [validate] at h
  rw [fault?]
  cases hd : (ofText t).defect? with
  | none => simp [hd] at h
  | some d =>
    simp only [hd, Except.error.injEq] at h
    rw [← h]
    rfl

end Template

end Listing
