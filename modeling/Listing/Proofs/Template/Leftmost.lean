import Listing.Proofs.Template.Visited

namespace Listing

open Template

def Template.defectOn (route : Route) : Template → Option Defect
  | done => none
  | broken d => some d
  | literal _ rest => rest.defectOn route
  | value _ rest => rest.defectOn route
  | span _ _ body rest => (body.defectOn route).or (rest.defectOn route)
  | condition key body rest =>
    (if route.condition key then body.defectOn route else none).or (rest.defectOn route)
  | call _ _ flaw rest => (if route.arguments then flaw else none).or (rest.defectOn route)

namespace Template

theorem defectOn_everywhere (t : Template) : t.defectOn .everywhere = t.defect? := by
  induction t with
  | done | broken => rfl
  | literal _ _ ih | value _ _ ih => exact ih
  | span _ _ _ _ ihb ihr => rw [defectOn, defect?, ihb, ihr]
  | condition _ _ _ ihb ihr => rw [defectOn, defect?, ← ihb, ← ihr]; rfl
  | call _ _ _ _ ih => rw [defectOn, defect?, ih]; rfl

/-- The leftmost of some faults and their positions, or none when there are none. -/
def Least (S : Nat → Fault → Prop) : Option Defect → Prop
  | none => ∀ n fault, ¬S n fault
  | some d => S d.offset d.fault ∧ ∀ n fault, S n fault → d.offset ≤ n

section Least

variable {S S' : Nat → Fault → Prop} {o o' : Option Defect}

theorem Least.or (h : Least S o) (h' : Least S' o')
    (hle : ∀ n fault m fault', S n fault → S' m fault' → n ≤ m) :
    Least (fun n fault => S n fault ∨ S' n fault) (o.or o') := by
  cases o with
  | none =>
    have hor (n : Nat) (fault : Fault) : (S n fault ∨ S' n fault) ↔ S' n fault :=
      or_iff_right (h n fault)
    simpa only [hor, Option.none_or] using h'
  | some d =>
    refine ⟨.inl h.1, ?_⟩
    rintro n fault (hn | hn)
    · exact h.2 n fault hn
    · exact hle _ _ _ _ h.1 hn

theorem least_none (h : ∀ n fault, ¬S n fault) : Least S none := h

theorem Least.guard (h : Least S o) (b : Bool) :
    Least (fun n fault => b = true ∧ S n fault) (if b then o else none) := by
  cases b with
  | true => simpa using h
  | false => exact least_none fun n fault hn => nomatch hn.1

theorem Least.congr (h : Least S o) (hS : ∀ n fault, S' n fault ↔ S n fault) : Least S' o := by
  have hSS : S' = S := funext fun n => funext fun fault => propext (hS n fault)
  rwa [hSS]

end Least

/-- A malformed directive that a traversal comes to in a text that starts at byte `pos`. -/
def BrokenFrom (route : Route) (pos : Nat) (t : Text) (n : Nat) (fault : Fault) : Prop :=
  ∃ rest, Visits route pos t n rest ∧ Broken rest fault

section Equations

variable {route : Route} {pos n : Nat} {t : Text} {fault f : Fault} {p : Part} {c : Char}

theorem BrokenFrom.le (h : BrokenFrom route pos t n fault) : pos ≤ n := by
  obtain ⟨rest, hv, -⟩ := h
  exact hv.le

theorem BrokenFrom.lt (h : BrokenFrom route pos t n fault) : n < pos + t.size := by
  obtain ⟨rest, hv, hb⟩ := h
  have hsize := hv.add_size_le
  obtain ⟨c, u, rfl⟩ := List.exists_cons_of_ne_nil hb.ne_nil
  have hpos : 0 < c.utf8Size := Char.utf8Size_pos c
  rw [Text.size_cons] at hsize
  omega

theorem brokenFrom_nil : ¬BrokenFrom route pos [] n fault := by
  have hnil : ¬Broken [] fault := nofun
  simp [BrokenFrom, visits_nil, hnil]

theorem brokenFrom_broken (h : Broken (c :: t) f) :
    BrokenFrom route pos (c :: t) n fault ↔ n = pos ∧ Broken (c :: t) fault := by
  simp [BrokenFrom, visits_broken h, and_assoc]

theorem brokenFrom_literal (hc : c ∉ ['[', '?', '@', '$']) :
    BrokenFrom route pos (c :: t) n fault ↔ BrokenFrom route (pos + c.utf8Size) t n fault := by
  have hwell : ¬Broken (c :: t) fault := fun h => hc (List.mem_append_left ['$'] h.mem)
  simp [BrokenFrom, visits_literal hc, or_and_right, exists_or, and_assoc, hwell]

theorem brokenFrom_value :
    BrokenFrom route pos ('$' :: t) n fault ↔
      BrokenFrom route (pos + 1 + (valueName t).size) (t.drop (valueName t).length) n fault := by
  have hwell : ¬Broken ('$' :: t) fault := fun h => absurd h.mem (by decide)
  simp [BrokenFrom, visits_value, or_and_right, exists_or, and_assoc, hwell]

theorem brokenFrom_span (hp : bracketed t = .ok p) :
    BrokenFrom route pos ('[' :: t) n fault ↔
      BrokenFrom route (pos + p.head.size + 2) p.body n fault ∨
        BrokenFrom route (pos + p.head.size + p.body.size + 3) p.rest n fault := by
  have hwell : ¬Broken ('[' :: t) fault := by
    rw [← bracketed_eq_error_iff, hp]
    nofun
  simp [BrokenFrom, visits_span hp, or_and_right, exists_or, and_assoc, hwell]

theorem not_broken_block (hc : c ∈ ['?', '@']) (hp : braced t = .ok p) :
    ¬Broken (c :: t) fault := by
  rw [← braced_eq_error_iff hc, hp]
  nofun

theorem brokenFrom_condition (hp : braced t = .ok p) :
    BrokenFrom route pos ('?' :: t) n fault ↔
      (route.condition p.head = true ∧ BrokenFrom route (pos + p.head.size + 2) p.body n fault) ∨
        BrokenFrom route (pos + p.head.size + p.body.size + 3) p.rest n fault := by
  have hwell : ¬Broken ('?' :: t) fault := not_broken_block (by decide) hp
  simp [BrokenFrom, visits_condition hp, or_and_right, exists_or, and_assoc, hwell]

theorem brokenFrom_call (hp : braced t = .ok p) :
    BrokenFrom route pos ('@' :: t) n fault ↔
      (route.arguments = true ∧ ∃ x ∈ located (pos + p.head.size + 2) (Template.arguments p.body),
        BrokenFrom route x.1 x.2 n fault) ∨
        BrokenFrom route (pos + p.head.size + p.body.size + 3) p.rest n fault := by
  have hwell : ¬Broken ('@' :: t) fault := not_broken_block (by decide) hp
  unfold BrokenFrom
  constructor
  · rintro ⟨rest, hv, hb⟩
    rcases (visits_call hp).1 hv with ⟨-, rfl⟩ | ⟨hroute, x, hx, hv⟩ | hv
    · exact absurd hb hwell
    · exact .inl ⟨hroute, x, hx, rest, hv, hb⟩
    · exact .inr ⟨rest, hv, hb⟩
  · rintro (⟨hroute, x, hx, rest, hv, hb⟩ | ⟨rest, hv, hb⟩)
    · exact ⟨rest, (visits_call hp).2 (.inr (.inl ⟨hroute, x, hx, hv⟩)), hb⟩
    · exact ⟨rest, (visits_call hp).2 (.inr (.inr hv)), hb⟩

end Equations

theorem le_of_mem_located {start : Nat} {as : List Text} {x : Nat × Text}
    (h : x ∈ located start as) :
    start ≤ x.1 ∧ x.1 + x.2.size ≤ start + Text.size (['@'].intercalate as) := by
  obtain ⟨bs, cs, rfl, hx⟩ := mem_located_iff.1 h
  rw [intercalate_around]
  simp only [Text.size_append]
  omega

theorem least_located {as : List Text}
    (h : ∀ a ∈ as, ∀ pos, Least (BrokenFrom .everywhere pos a) (read pos a).defect?) (start : Nat) :
    Least (fun n fault => ∃ x ∈ located start as, BrokenFrom .everywhere x.1 x.2 n fault)
      ((located start as).findSome? fun x => (read x.1 x.2).defect?) := by
  induction as generalizing start with
  | nil => exact least_none fun n fault hn => by simp [located] at hn
  | cons a as ih =>
    have hfirst := h a List.mem_cons_self start
    have hothers := ih (fun b hb => h b (List.mem_cons_of_mem a hb)) (start + a.size + 1)
    have hor : ((located start (a :: as)).findSome? fun x => (read x.1 x.2).defect?) =
        (read start a).defect?.or ((located (start + a.size + 1) as).findSome? fun x =>
          (read x.1 x.2).defect?) := by
      rw [located, List.findSome?_cons]
      cases (read start a).defect? <;> rfl
    rw [hor]
    refine (hfirst.or hothers ?_).congr fun n fault => by simp [located]
    rintro n fault m fault' hn ⟨x, hx, hm⟩
    have hlt := hn.lt
    have hle := (le_of_mem_located hx).1
    have hle' := hm.le
    omega

/-- The defect of a template is the leftmost malformed directive that the traversal comes to. -/
theorem least_defectOn (route : Route) (pos : Nat) (t : Text) :
    Least (BrokenFrom route pos t) ((read pos t).defectOn route) := by
  have hbroken {c : Char} {t : Text} {fault : Fault} (h : Broken (c :: t) fault) (pos : Nat) :
      Least (BrokenFrom route pos (c :: t)) (some ⟨fault, pos⟩) :=
    ⟨(brokenFrom_broken h).2 ⟨rfl, h⟩, fun n f hn => hn.le⟩
  induction t using readInduction generalizing pos with
  | nil =>
    rw [read_nil]
    exact least_none fun n fault => brokenFrom_nil
  | spanBroken t fault h =>
    rw [read_span_broken pos h]
    exact hbroken (bracketed_eq_error_iff.1 h) pos
  | span t p h ihb ihr =>
    rw [read_span pos h]
    refine ((ihb _).or (ihr _) ?_).congr fun n fault => brokenFrom_span h
    intro n fault m fault' hn hm
    have hlt := hn.lt
    have hle := hm.le
    omega
  | conditionBroken t fault h =>
    rw [read_condition_broken pos h]
    exact hbroken ((braced_eq_error_iff (by decide)).1 h) pos
  | condition t p h ihb ihr =>
    rw [read_condition pos h]
    refine (((ihb _).guard _).or (ihr _) ?_).congr fun n fault => brokenFrom_condition h
    intro n fault m fault' hn hm
    have hlt := hn.2.lt
    have hle := hm.le
    omega
  | callBroken t fault h =>
    rw [read_call_broken pos h]
    exact hbroken ((braced_eq_error_iff (by decide)).1 h) pos
  | call t p h iha ihr =>
    have hargs : Least (fun n fault => route.arguments = true ∧
        ∃ x ∈ located (pos + p.head.size + 2) (arguments p.body), BrokenFrom route x.1 x.2 n fault)
        (if route.arguments then (located (pos + p.head.size + 2) (arguments p.body)).findSome?
          fun x => (read x.1 x.2).defect? else none) := by
      cases route with
      | everywhere =>
        refine (least_located (fun a ha pos => ?_) _).guard true
        rw [← defectOn_everywhere]
        exact iha a ha pos
      | past f => exact least_none fun n fault hn => nomatch hn.1
    rw [read_call pos h]
    refine (hargs.or (ihr _) ?_).congr fun n fault => brokenFrom_call h
    rintro n fault m fault' ⟨-, x, hx, hn⟩ hm
    have hlt := hn.lt
    have hle := hm.le
    have hend := (le_of_mem_located hx).2
    rw [intercalate_arguments] at hend
    omega
  | value t h ih =>
    rw [read_value pos h]
    exact (ih _).congr fun n fault => brokenFrom_value
  | dollar t h ih =>
    rw [read_dollar pos h]
    refine (ih _).congr fun n fault => ?_
    rw [brokenFrom_value, h]
    rfl
  | literal c t h ih =>
    rw [read_literal pos h]
    exact (ih _).congr fun n fault => brokenFrom_literal h

end Template

end Listing
