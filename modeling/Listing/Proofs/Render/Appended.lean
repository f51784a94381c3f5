import Mathlib
import Listing.Proofs.Render.Failing
import Listing.Proofs.Render.Noted
import Listing.Proofs.Template.Appended

namespace Listing

open Template

variable {C : Type}

def Interrupt.moved (n : Nat) : Interrupt → Interrupt
  | .broken d => .broken (d.moved n)
  | .failed e => .failed e

theorem Defect.within_moved (d : Defect) (n : Nat) (t : Text) :
    (d.moved n).within t = ⟨d.fault, t, n + d.offset⟩ := by
  rw [Nat.add_comm]
  rfl

namespace Template

variable (q : Answers)

theorem fill_append (s u : Template) :
    (s ++ u).fill q = do
      let a ← s.fill q
      let b ← u.fill q
      return a ++ b := by
  induction s with
  | done => exact (bind_pure (u.fill q)).symm
  | broken d => rfl
  | literal c rest ih =>
    change (literal c (rest ++ u)).fill q = _
    rw [fill, fill, ih]
    simp only [map_eq_pure_bind, bind_assoc, pure_bind, List.cons_append]
  | value name rest ih =>
    change (value name (rest ++ u)).fill q = _
    rw [fill, fill, ih]
    simp only [bind_assoc, pure_bind, List.append_assoc]
  | span color subject body rest ihb ih =>
    change (span color subject body (rest ++ u)).fill q = _
    rw [fill, fill, ih]
    simp only [bind_assoc, pure_bind, List.append_assoc, List.cons_append]
  | condition key body rest ihb ih =>
    change (condition key body (rest ++ u)).fill q = _
    rw [fill, fill, ih, bind_assoc]
    congr 1
    funext answer
    rcases answer with _ | _ | _
    · simp only [bind_assoc, pure_bind, List.append_assoc, List.cons_append]
    · rfl
    · simp only [bind_assoc, pure_bind, List.append_assoc]
  | call name args flaw rest ih =>
    change (call name args flaw (rest ++ u)).fill q = _
    rw [fill, fill, ih]
    simp only [bind_assoc, pure_bind, List.append_assoc]

theorem fill_append_eq_ok_iff {s u : Template} {out : Text} :
    (s ++ u).fill q = .ok out ↔ ∃ a b, s.fill q = .ok a ∧ u.fill q = .ok b ∧ out = a ++ b := by
  rw [fill_append]
  constructor
  · intro h
    obtain ⟨a, ha, h⟩ := bind_eq_ok h
    obtain ⟨b, hb, h⟩ := bind_eq_ok h
    cases h
    exact ⟨a, b, ha, hb, rfl⟩
  · rintro ⟨a, b, ha, hb, rfl⟩
    rw [ha, hb]
    rfl

theorem ask_moved {α : Type} (n : Nat) (answer : Except ResolveError α) :
    (ask answer).mapError (Interrupt.moved n) = ask answer := by
  cases answer <;> rfl

theorem spanColor_moved (n : Nat) (color : Text) (subject : Option Text) :
    (spanColor q color subject).mapError (Interrupt.moved n) = spanColor q color subject := by
  unfold spanColor
  split
  · cases subject with
    | none => rfl
    | some name =>
      simp only [ask]
      cases q.color name <;> rfl
  · rfl

/-- Only a broken leaf depends on where the text starts. -/
theorem fill_moved (n : Nat) (t : Template) :
    (t.moved n).fill q = (t.fill q).mapError (Interrupt.moved n) := by
  induction t with
  | done | broken => rfl
  | literal c rest ih =>
    rw [moved, fill, fill, ih]
    cases rest.fill q <;> rfl
  | value name rest ih =>
    rw [moved, fill, fill, ih, mapError_bind, ask_moved]
    simp only [mapError_bind]
    rfl
  | span color subject body rest ihb ih =>
    rw [moved, fill, fill, ihb, ih, mapError_bind, spanColor_moved]
    simp only [mapError_bind]
    rfl
  | condition key body rest ihb ih =>
    rw [moved, fill, fill, ihb, ih, mapError_bind, ask_moved]
    congr 1
    funext answer
    rcases answer with _ | _ | _
    · simp only [mapError_bind]
      rfl
    · rfl
    · simp only [mapError_bind]
      rfl
  | call name args flaw rest ih =>
    rw [moved, fill, fill, ih, mapError_bind, mapError_mapError]
    simp only [mapError_bind]
    rfl

theorem Reaches.render_eq_ok_iff {r : Resolver C} {depth : Nat} {scope : C}
    {t before rest out : Text} (h : Reaches t before rest) :
    r.render depth t scope = .ok out ↔ ∃ a b, r.render depth before scope = .ok a ∧
      r.render depth rest scope = .ok b ∧ out = a ++ b := by
  cases depth with
  | zero => exact ⟨nofun, fun ⟨_, _, ha, _⟩ => nomatch ha⟩
  | succ depth =>
    simp only [Resolver.render_succ, mapError_eq_ok_iff, ofText]
    rw [h.read_eq, fill_append_eq_ok_iff, read_add, fill_moved]
    simp only [mapError_eq_ok_iff]

theorem validate_append {t u : Text} (ht : validate t = .ok ()) (hu : EndsNames u) :
    validate (t ++ u) =
      (validate u).mapError fun e => ⟨e.fault, t ++ u, t.size + e.offset⟩ := by
  have hfault : fault? t = none := (validate_eq_ok_iff t).1 ht
  have hnone : (read 0 t).defect? = none := Option.map_eq_none_iff.1 hfault
  have hdefect : (ofText (t ++ u)).defect? = (ofText u).defect?.map (Defect.moved t.size) := by
    rw [ofText, read_append hfault hu, defect?_append, hnone, Option.none_or, defect?_read_add]
    rfl
  rw [validate, validate, hdefect]
  cases (ofText u).defect? with
  | none => rfl
  | some d => exact congrArg Except.error (d.within_moved t.size (t ++ u))

end Template

/-- The run of a well-formed template with text behind it is the run of the one and then that of the
other. -/
theorem Resolver.outcome_run_append (r : Resolver C) (depth : Nat) (scope : C) {t u : Text}
    (ht : validate t = .ok ()) (hu : EndsNames u) :
    (r.run depth (t ++ u) scope).outcome = do
      let a ← (r.run depth t scope).outcome
      let b ← (r.run depth u scope).outcome.mapError (Interrupt.moved t.size)
      return a ++ b := by
  simp only [run, outcome_traverse]
  rw [ofText, read_append ((validate_eq_ok_iff t).1 ht) hu, fill_append, read_add, fill_moved]
  rfl

theorem exists_failed_of_run {r : Resolver C} {depth : Nat} {t : Text} {scope : C} {i : Interrupt}
    (ht : validate t = .ok ()) (h : (r.run depth t scope).outcome = .error i) :
    ∃ e, i = .failed e := by
  have hq : (r.answers (r.render depth) scope).FailsOnly (fun _ => True) t.length :=
    ⟨fun _ _ _ => trivial, fun _ _ _ => trivial, fun _ _ _ => trivial, fun _ _ _ _ _ => trivial⟩
  rw [Resolver.run, outcome_traverse] at h
  have honly : i.Only fun _ => True :=
    hq.fill ((validate_eq_ok_iff t).1 ht) (Nat.le_refl _) 0 i h
  cases i with
  | broken d => exact honly.elim
  | failed e => exact ⟨e, rfl⟩

/-- What a well-formed template renders to, or fails with, comes first when text follows that starts
with a blank. An error of the text stays as it is, unless it is a defect of the text itself. -/
theorem render_append {t u : Text} (ht : validate t = .ok ())
    (hu : ∀ c ∈ u.head?, Text.isBlank c = true) (r : Resolver C) (depth : Nat) (scope : C) :
    (∀ a b, r.render (depth + 1) t scope = .ok a → r.render (depth + 1) u scope = .ok b →
      r.render (depth + 1) (t ++ u) scope = .ok (a ++ b)) ∧
    (∀ e, r.render (depth + 1) t scope = .error e →
      r.render (depth + 1) (t ++ u) scope = .error e) ∧
    (∀ a e, r.render (depth + 1) t scope = .ok a → r.render (depth + 1) u scope = .error e →
      ((r.run depth u scope).outcome = .error (.failed e) ∧
          r.render (depth + 1) (t ++ u) scope = .error e) ∨
        ∃ d, (r.run depth u scope).outcome = .error (.broken d) ∧
          e = .malformed ⟨d.fault, u, d.offset⟩ ∧
          r.render (depth + 1) (t ++ u) scope =
            .error (.malformed ⟨d.fault, t ++ u, t.size + d.offset⟩)) ∧
    validate (t ++ u) =
      (validate u).mapError fun e => ⟨e.fault, t ++ u, t.size + e.offset⟩ := by
  have happend := r.outcome_run_append depth scope ht hu
  simp only [Resolver.render_eq_run]
  refine ⟨?_, ?_, ?_, validate_append ht hu⟩
  · intro a b ha hb
    rw [happend, mapError_eq_ok ha, mapError_eq_ok hb]
    rfl
  · intro e he
    obtain ⟨i, hi, rfl⟩ := mapError_eq_error_iff.1 he
    obtain ⟨e, rfl⟩ := exists_failed_of_run ht hi
    rw [happend, hi]
    rfl
  · intro a e ha he
    obtain ⟨i, hi, rfl⟩ := mapError_eq_error_iff.1 he
    rw [happend, mapError_eq_ok ha, hi]
    cases i with
    | failed e => exact .inl ⟨rfl, rfl⟩
    | broken d =>
      refine .inr ⟨d, rfl, rfl, ?_⟩
      rw [← d.within_moved]
      rfl

def quoting : Resolver Unit where
  value name _ :=
    if name = "n" then .ok (some "[7]")
    else if name = "item" then .error (.outsideList name) else .ok none
  call _ args scope render :=
    match args with
    | [] => .ok none
    | a :: _ => some <$> render a scope

theorem render_append_nested :
    validate "é[Red:$n ]@f\x7b$n @x\x7d$y" = .ok () ∧
      quoting.render 2 "é[Red:$n ]@f\x7b$n @x\x7d$y\u00a0$n" () =
        .ok "é[Red:[7] ][7] $y\u00a0[7]" ∧
      quoting.render 2 "é[Red:$n ]@f\x7b$n @x\x7d$y ?k\x7b[ü]\x7d" () = .error (.malformed
        ⟨.missingColon, "é[Red:$n ]@f\x7b$n @x\x7d$y ?k\x7b[ü]\x7d", 26⟩) ∧
      quoting.render 2 "@f\x7b$item\x7d [ü" () = .error (.unresolved (.outsideList "item")) := by
  have ht : validate "é[Red:$n ]@f\x7b$n @x\x7d$y" = .ok () := by cbv
  have hout : quoting.render 2 "é[Red:$n ]@f\x7b$n @x\x7d$y" () = .ok "é[Red:[7] ][7] $y" := by cbv
  refine ⟨ht, ?_, ?_, ?_⟩
  · have hvalue : EndsNames "\u00a0$n" := by
      rintro c ⟨⟩
      decide
    exact (render_append ht hvalue quoting 1 ()).1 _ "\u00a0[7]" hout (by cbv)
  · have hspan : EndsNames " ?k\x7b[ü]\x7d" := by
      rintro c ⟨⟩
      decide
    have hrun : (quoting.run 1 " ?k\x7b[ü]\x7d" ()).outcome =
        .error (.broken ⟨.missingColon, 4⟩) := by cbv
    obtain ⟨hfailed, -⟩ | ⟨d, hd, -, hrender⟩ :=
      (render_append ht hspan quoting 1 ()).2.2.1 _ _ hout
        (by rw [Resolver.render_eq_run, hrun]; rfl)
    · cases hrun.symm.trans hfailed
    · cases hrun.symm.trans hd
      exact hrender
  · have hitem : validate "@f\x7b$item\x7d" = .ok () := by cbv
    have hspan : EndsNames " [ü" := by
      rintro c ⟨⟩
      decide
    exact (render_append hitem hspan quoting 1 ()).2.1 _ (by cbv)

end Listing
