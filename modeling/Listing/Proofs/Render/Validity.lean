import Mathlib
import Listing.Proofs.Render.Failing

namespace Listing

open Template

variable {C : Type}

def RenderError.fault? : RenderError → Option Fault
  | .malformed e => some e.fault
  | .unresolved _ => none
  | .tooDeep => none

def Interrupt.fault? : Interrupt → Option Fault
  | .broken d => some d.fault
  | .failed e => e.fault?

theorem Interrupt.fault?_within (t : Text) (i : Interrupt) : (i.within t).fault? = i.fault? := by
  cases i <;> rfl

theorem RenderError.fault?_eq_none_iff {e : RenderError} :
    e.fault? = none ↔ ∀ m, e ≠ .malformed m := by
  cases e <;> simp [fault?]

/-- Calls end with a syntax error only when rendering one of their own arguments does, in whatever
scope. -/
def Resolver.Relays (r : Resolver C) : Prop :=
  ∀ depth name args scope e, r.call name args scope (r.render depth) = .error (.malformed e) →
    ∃ a ∈ args, ∃ s e', r.render depth a s = .error (.malformed e')

namespace Render

def Clean {ε α : Type} (fault? : ε → Option Fault) (x : Except ε α) : Prop :=
  ∀ e, x = .error e → fault? e = none

theorem failsOnly_of_relays {r : Resolver C} (hr : r.Relays) :
    r.FailsOnly (fun e => e.fault? = none) fun _ => True where
  value _ _ _ _ _ := rfl
  color _ _ _ _ _ := rfl
  condition _ _ _ _ _ := rfl
  call depth name args s _ hargs e he := by
    refine RenderError.fault?_eq_none_iff.2 fun m heq => ?_
    subst heq
    obtain ⟨a, ha, s', m', hm⟩ := hr depth name args s m he
    exact RenderError.fault?_eq_none_iff.1 (hargs a ha s' trivial _ hm) m' rfl

theorem clean_render {r : Resolver C} (hr : r.Relays) {t : Text} (ht : fault? t = none)
    (depth : Nat) (scope : C) : Clean RenderError.fault? (r.render depth t scope) :=
  (failsOnly_of_relays hr).render ht (.inl rfl) trivial

/-- A run that ends with this fault, or with a result when there is none. -/
def Stops {ε α : Type} (fault? : ε → Option Fault) (x : Except ε α) : Option Fault → Prop
  | none => ∃ a, x = .ok a
  | some fault => ∃ e, x = .error e ∧ fault? e = some fault

section Stops

variable {ε α β : Type} {fault? : ε → Option Fault}

theorem Stops.bind {x : Except ε α} {f : α → Except ε β} {o o' : Option Fault}
    (hx : Stops fault? x o) (hf : ∀ a, Stops fault? (f a) o') :
    Stops fault? (x >>= f) (o.or o') := by
  cases o with
  | none =>
    obtain ⟨a, rfl⟩ := hx
    exact hf a
  | some fault =>
    obtain ⟨e, rfl, he⟩ := hx
    exact ⟨e, rfl, he⟩

theorem stops_ok (a : α) : Stops fault? (.ok a) none := ⟨a, rfl⟩

theorem Stops.bind_ok {x : Except ε α} {o : Option Fault} (hx : Stops fault? x o) (f : α → β) :
    Stops fault? (x >>= fun a => .ok (f a)) o := by
  simpa using hx.bind fun a => stops_ok (f a)

theorem Stops.map {x : Except ε α} {o : Option Fault} (hx : Stops fault? x o) (f : α → β) :
    Stops fault? (f <$> x) o := by
  rw [map_eq_pure_bind]
  exact hx.bind_ok f

theorem Stops.mapError {ε' : Type} {f : ε' → Option Fault} {g : ε → ε'} {x : Except ε α}
    {o : Option Fault} (hx : Stops (fun e => f (g e)) x o) : Stops f (x.mapError g) o := by
  cases o with
  | none =>
    obtain ⟨a, rfl⟩ := hx
    exact ⟨a, rfl⟩
  | some fault =>
    obtain ⟨e, rfl, he⟩ := hx
    exact ⟨g e, rfl, he⟩

theorem stops_mapM {γ : Type} {f : γ → Except ε α} {o : γ → Option Fault} {xs : List γ}
    (h : ∀ x ∈ xs, Stops fault? (f x) (o x)) : Stops fault? (xs.mapM f) (xs.findSome? o) := by
  induction xs with
  | nil => exact stops_ok []
  | cons x xs ih =>
    have hor : (x :: xs).findSome? o = (o x).or (xs.findSome? o) := by
      rw [List.findSome?_cons]
      cases o x <;> rfl
    rw [List.mapM_cons, hor]
    apply (h x (by simp)).bind
    intro a
    exact (ih fun y hy => h y (by simp [hy])).map _

end Stops

end Render

/-- Knows no names but those of calls. Each call renders all its arguments in their order, and makes
what it likes of the results. -/
def Resolver.ofArguments (finish : Text → List Text → C → List Text → Option Text) :
    Resolver C where
  call name args scope render := finish name args scope <$> args.mapM fun a => render a scope

namespace Render

variable (finish : Text → List Text → C → List Text → Option Text)

theorem stops_spanColor (depth : Nat) (scope : C) (color : Text) (subject : Option Text) :
    Stops Interrupt.fault?
      (spanColor ((Resolver.ofArguments finish).answers ((Resolver.ofArguments finish).render depth)
        scope) color subject) none := by
  unfold spanColor
  by_cases ha : Text.agrees color "auto"
  · rw [if_pos ha]
    cases subject with
    | none => exact stops_ok []
    | some name => exact stops_ok []
  · rw [if_neg ha]
    exact stops_ok color

/-- Depth for all calls that fit into a text is depth enough. -/
theorem stops_fill (t : Text) (pos depth : Nat) (hdepth : t.length ≤ depth) (scope : C) :
    Stops Interrupt.fault?
      ((read pos t).fill ((Resolver.ofArguments finish).answers
        ((Resolver.ofArguments finish).render depth) scope)) (fault? t) := by
  induction t using readInduction generalizing pos depth with
  | nil =>
    rw [read_nil, fault?_nil]
    exact stops_ok []
  | spanBroken t fault h =>
    rw [read_span_broken pos h, fault?_span_broken h]
    exact ⟨_, rfl, rfl⟩
  | span t p h ihb ihr =>
    have hb := length_body_bracketed h
    have hr := length_rest_bracketed h
    rw [List.length_cons] at hdepth
    rw [read_span pos h, fault?_span h]
    apply (stops_spanColor finish depth scope p.head _).bind
    intro color
    apply (ihb _ depth (by omega)).bind
    intro inner
    exact (ihr _ depth (by omega)).bind_ok _
  | conditionBroken t fault h =>
    rw [read_condition_broken pos h, fault?_condition_broken h]
    exact ⟨_, rfl, rfl⟩
  | condition t p h ihb ihr =>
    have hb := length_body_braced h
    have hr := length_rest_braced h
    rw [List.length_cons] at hdepth
    rw [read_condition pos h, fault?_condition h]
    apply (ihb _ depth (by omega)).bind
    intro inner
    exact (ihr _ depth (by omega)).bind_ok _
  | callBroken t fault h =>
    rw [read_call_broken pos h, fault?_call_broken h]
    exact ⟨_, rfl, rfl⟩
  | call t p h iha ihr =>
    have hb := length_body_braced h
    have hr := length_rest_braced h
    rw [List.length_cons] at hdepth
    rw [read_call pos h, fault?_call h]
    obtain ⟨d, rfl⟩ : ∃ d, depth = d + 1 := ⟨depth - 1, by omega⟩
    have harg : ∀ a ∈ arguments p.body, Stops RenderError.fault?
        ((Resolver.ofArguments finish).render (d + 1) a scope) (fault? a) := by
      intro a ha
      have hlen := length_le_of_mem_arguments ha
      rw [Resolver.render_succ]
      apply Stops.mapError
      simp only [Interrupt.fault?_within]
      exact iha a ha 0 d (by omega)
    have hcall : Stops Interrupt.fault?
        (((Resolver.ofArguments finish).call p.head (arguments p.body) scope
          ((Resolver.ofArguments finish).render (d + 1))).mapError .failed)
        ((arguments p.body).findSome? fault?) :=
      .mapError ((stops_mapM harg).map _)
    apply hcall.bind
    intro answer
    exact (ihr _ (d + 1) (by omega)).bind_ok _
  | value t h ih =>
    rw [List.length_cons] at hdepth
    rw [read_value pos h, fault?_value h]
    exact (ih _ depth (by simp only [List.length_drop]; omega)).map _
  | dollar t h ih =>
    rw [List.length_cons] at hdepth
    rw [read_dollar pos h, fault?_dollar h]
    exact (ih _ depth (by omega)).map _
  | literal c t h ih =>
    rw [List.length_cons] at hdepth
    rw [read_literal pos h, fault?_literal h]
    exact (ih _ depth (by omega)).map _

theorem relays_ofArguments : (Resolver.ofArguments finish).Relays := by
  intro depth name args scope e h
  change finish name args scope <$> args.mapM
    (fun a => (Resolver.ofArguments finish).render depth a scope) = _ at h
  obtain ⟨a, ha, hae⟩ := exists_error_of_mapM (map_eq_error h)
  exact ⟨a, ha, scope, e, hae⟩

/-- A template that validation accepts never fails to render for its form. One that it refuses fails
for the same fault when all its arguments are rendered, and nothing else can stop it there. -/
theorem validate_decides_malformed (t : Text) :
    (validate t = .ok () → ∀ r : Resolver C, r.Relays → ∀ depth scope e,
      r.render depth t scope ≠ .error (.malformed e)) ∧
    ∀ e, validate t = .error e →
      ∀ (finish : Text → List Text → C → List Text → Option Text) (depth : Nat) (scope : C),
        t.length < depth →
          ∃ e', (Resolver.ofArguments finish).render depth t scope = .error (.malformed e') ∧
            e'.fault = e.fault := by
  constructor
  · intro ht r hr depth scope e h
    have hclean := clean_render hr ((validate_eq_ok_iff t).1 ht) depth scope _ h
    exact RenderError.fault?_eq_none_iff.1 hclean e rfl
  · intro e he finish depth scope hdepth
    obtain ⟨d, rfl⟩ : ∃ d, depth = d + 1 := ⟨depth - 1, by omega⟩
    have hstops := stops_fill finish t 0 d (by omega) scope
    rw [fault?_of_validate he] at hstops
    obtain ⟨i, hi, hfault⟩ := hstops
    rw [Resolver.render_succ, ofText, hi]
    cases hw : i.within t with
    | malformed e' =>
      refine ⟨e', by simp only [Except.mapError, hw], ?_⟩
      have hsame := Interrupt.fault?_within t i
      rw [hw, hfault] at hsame
      exact Option.some.inj hsame
    | unresolved e' | tooDeep =>
      have hsame := Interrupt.fault?_within t i
      rw [hw, hfault] at hsame
      cases hsame

def joining (_ : Text) (_ : List Text) (_ : Unit) (outs : List Text) : Option Text :=
  some outs.flatten

theorem validate_decides_malformed_nested :
    (validate "?k\x7b$x\x7d @f\x7b[Red:$a]@@g\x7b?k\x7bb\x7d\x7d\x7d" = .ok () ∧
      ∀ e, (Resolver.ofArguments joining).render 9
        "?k\x7b$x\x7d @f\x7b[Red:$a]@@g\x7b?k\x7bb\x7d\x7d\x7d" () ≠ .error (.malformed e)) ∧
    validate "?k\x7b@f\x7b@ok@[Red]\x7d\x7d" =
      .error ⟨.missingColon, "?k\x7b@f\x7b@ok@[Red]\x7d\x7d", 10⟩ ∧
      ∃ e', (Resolver.ofArguments joining).render 18 "?k\x7b@f\x7b@ok@[Red]\x7d\x7d" () =
        .error (.malformed e') ∧ e'.fault = .missingColon := by
  have hvalid : validate "?k\x7b$x\x7d @f\x7b[Red:$a]@@g\x7b?k\x7bb\x7d\x7d\x7d" = .ok () := by cbv
  have hbroken : validate "?k\x7b@f\x7b@ok@[Red]\x7d\x7d" =
      .error ⟨.missingColon, "?k\x7b@f\x7b@ok@[Red]\x7d\x7d", 10⟩ := by cbv
  exact ⟨⟨hvalid, (validate_decides_malformed _).1 hvalid _ (relays_ofArguments joining) 9 ()⟩,
    hbroken, (validate_decides_malformed _).2 _ hbroken joining 18 () (by decide)⟩

end Render

end Listing
