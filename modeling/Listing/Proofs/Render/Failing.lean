import Listing.Proofs.Outcome
import Listing.Proofs.Template.Reading
import Listing.Render.Resolver

namespace Listing

open Template

def FailsOnly {ε α : Type} (E : ε → Prop) (x : Except ε α) : Prop := ∀ e, x = .error e → E e

namespace FailsOnly

variable {ε ε' α β : Type} {E F : ε → Prop} {x : Except ε α}

theorem ok (a : α) : FailsOnly E (.ok a) := nofun

theorem imp (h : FailsOnly E x) (hEF : ∀ e, E e → F e) : FailsOnly F x := fun e he => hEF e (h e he)

theorem bind {f : α → Except ε β} (hx : FailsOnly E x) (hf : ∀ a, FailsOnly E (f a)) :
    FailsOnly E (x >>= f) := by
  intro e h
  rcases bind_eq_error h with hx' | ⟨a, -, ha⟩
  · exact hx e hx'
  · exact hf a e ha

theorem map (hx : FailsOnly E x) (f : α → β) : FailsOnly E (f <$> x) :=
  fun e h => hx e (map_eq_error h)

theorem mapError {E' : ε' → Prop} {g : ε → ε'} (hx : FailsOnly (fun e => E' (g e)) x) :
    FailsOnly E' (x.mapError g) := by
  intro e h
  obtain ⟨d, hd, rfl⟩ := mapError_eq_error_iff.1 h
  exact hx d hd

theorem mapM {f : β → Except ε α} {xs : List β} (h : ∀ y ∈ xs, FailsOnly E (f y)) :
    FailsOnly E (xs.mapM f) := by
  intro e he
  obtain ⟨y, hy, hfy⟩ := exists_error_of_mapM he
  exact h y hy e hfy

theorem exists_ok (h : FailsOnly (fun _ => False) x) : ∃ a, x = .ok a := by
  cases x with
  | ok a => exact ⟨a, rfl⟩
  | error e => exact (h e rfl).elim

end FailsOnly

variable {C : Type} {E : RenderError → Prop} {I : C → Prop}

/-- A tree without broken leaves can only be interrupted by these errors. -/
def Interrupt.Only (E : RenderError → Prop) : Interrupt → Prop
  | .broken _ => False
  | .failed e => E e

theorem Interrupt.Only.within {i : Interrupt} (h : i.Only E) (t : Text) : E (i.within t) := by
  cases i with
  | broken d => exact h.elim
  | failed e => exact h

theorem failsOnly_ask {α : Type} {answer : Except ResolveError α}
    (h : FailsOnly (fun e => E (.unresolved e)) answer) :
    FailsOnly (Interrupt.Only E) (ask answer) := .mapError h

theorem failsOnly_spanColor {q : Answers}
    (h : ∀ name, FailsOnly (fun e => E (.unresolved e)) (q.color name)) (color : Text)
    (subject : Option Text) : FailsOnly (Interrupt.Only E) (spanColor q color subject) := by
  unfold spanColor
  split
  · cases subject with
    | none => exact .ok []
    | some name => exact (failsOnly_ask (h name)).map _
  · exact .ok color

/-- Answers that fail with these errors only, where those of calls may rely on arguments that are
valid and shorter than a bound. -/
structure Answers.FailsOnly (q : Answers) (E : RenderError → Prop) (bound : Nat) : Prop where
  value : ∀ name, Listing.FailsOnly (fun e => E (.unresolved e)) (q.value name)
  color : ∀ name, Listing.FailsOnly (fun e => E (.unresolved e)) (q.color name)
  condition : ∀ key, Listing.FailsOnly (fun e => E (.unresolved e)) (q.condition key)
  call : ∀ name args, (∀ a ∈ args, fault? a = none ∧ a.length < bound) →
    Listing.FailsOnly E (q.call name args)

theorem Answers.FailsOnly.fill {q : Answers} {bound : Nat} (hq : q.FailsOnly E bound) {t : Text}
    (ht : fault? t = none) (hlength : t.length ≤ bound) (pos : Nat) :
    Listing.FailsOnly (Interrupt.Only E) ((read pos t).fill q) := by
  induction t using readInduction generalizing pos with
  | nil =>
    rw [read_nil]
    exact .ok []
  | spanBroken t fault h => simp [fault?_span_broken h] at ht
  | span t p h ihb ihr =>
    have hb := length_body_bracketed h
    have hr := length_rest_bracketed h
    rw [List.length_cons] at hlength
    rw [fault?_span h, Option.or_eq_none_iff] at ht
    rw [read_span pos h]
    apply (failsOnly_spanColor hq.color p.head _).bind
    intro color
    apply (ihb ht.1 (by omega) _).bind
    intro inner
    apply (ihr ht.2 (by omega) _).bind
    intro out
    exact .ok _
  | conditionBroken t fault h => simp [fault?_condition_broken h] at ht
  | condition t p h ihb ihr =>
    have hb := length_body_braced h
    have hr := length_rest_braced h
    rw [List.length_cons] at hlength
    rw [fault?_condition h, Option.or_eq_none_iff] at ht
    rw [read_condition pos h]
    apply (failsOnly_ask (hq.condition p.head)).bind
    intro answer
    match answer with
    | none | some true =>
      apply (ihb ht.1 (by omega) _).bind
      intro inner
      apply (ihr ht.2 (by omega) _).bind
      intro out
      exact .ok _
    | some false => exact ihr ht.2 (by omega) _
  | callBroken t fault h => simp [fault?_call_broken h] at ht
  | call t p h iha ihr =>
    have hb := length_body_braced h
    have hr := length_rest_braced h
    rw [List.length_cons] at hlength
    rw [fault?_call h, Option.or_eq_none_iff, List.findSome?_eq_none_iff] at ht
    rw [read_call pos h]
    have hargs : ∀ a ∈ arguments p.body, fault? a = none ∧ a.length < bound := by
      intro a ha
      have := length_le_of_mem_arguments ha
      exact ⟨ht.1 a ha, by omega⟩
    have hcall : Listing.FailsOnly (Interrupt.Only E)
        ((q.call p.head (arguments p.body)).mapError .failed) :=
      .mapError (hq.call p.head _ hargs)
    apply hcall.bind
    intro answer
    apply (ihr ht.2 (by omega) _).bind
    intro out
    exact .ok _
  | value t h ih =>
    rw [List.length_cons] at hlength
    rw [fault?_value h] at ht
    rw [read_value pos h]
    apply (failsOnly_ask (hq.value (valueName t))).bind
    intro answer
    apply (ih ht (by simp only [List.length_drop]; omega) _).bind
    intro out
    exact .ok _
  | dollar t h ih =>
    rw [List.length_cons] at hlength
    rw [fault?_dollar h] at ht
    rw [read_dollar pos h]
    exact (ih ht (by omega) _).map _
  | literal c t h ih =>
    rw [List.length_cons] at hlength
    rw [fault?_literal h] at ht
    rw [read_literal pos h]
    exact (ih ht (by omega) _).map _

def FailsOnlyIn {α : Type} (E : RenderError → Prop) (I : C → Prop)
    (query : C → Except ResolveError α) : Prop :=
  ∀ s, I s → FailsOnly (fun e => E (.unresolved e)) (query s)

structure Resolver.FailsOnly (r : Resolver C) (E : RenderError → Prop) (I : C → Prop) : Prop where
  value : ∀ name, FailsOnlyIn E I (r.value name)
  color : ∀ name, FailsOnlyIn E I (r.color name)
  condition : ∀ key, FailsOnlyIn E I (r.condition key)
  call : ∀ depth name args s, I s →
    (∀ a ∈ args, ∀ s', I s' → Listing.FailsOnly E (r.render depth a s')) →
      Listing.FailsOnly E (r.call name args s (r.render depth))

theorem Resolver.FailsOnly.render {r : Resolver C} (hr : r.FailsOnly E I) {t : Text}
    (ht : fault? t = none) {depth : Nat} (hdepth : E .tooDeep ∨ t.length < depth) {s : C}
    (hs : I s) : Listing.FailsOnly E (r.render depth t s) := by
  induction depth generalizing t s with
  | zero =>
    intro e h
    cases h
    exact hdepth.resolve_right (Nat.not_lt_zero _)
  | succ depth ih =>
    rw [Resolver.render_succ]
    apply Listing.FailsOnly.mapError
    have hq : (r.answers (r.render depth) s).FailsOnly E t.length := by
      refine ⟨fun name => hr.value name s hs, fun name => hr.color name s hs,
        fun key => hr.condition key s hs, fun name args hargs => ?_⟩
      refine hr.call depth name args s hs fun a ha s' hs' => ih (hargs a ha).1 ?_ hs'
      exact hdepth.imp_right fun hlt => by
        have := (hargs a ha).2
        omega
    exact (hq.fill ht (Nat.le_refl _) 0).imp fun i hi => hi.within t

end Listing
