import Mathlib
import Listing.Proofs.Render.Noted
import Listing.Proofs.Template.Leftmost

namespace Listing

open Template

variable {C α β : Type}

inductive Answers.Fails (q : Answers) : RenderError → Prop
  | unresolved (e : ResolveError) : q.Fails (.unresolved e)
  | call {name : Text} {args : List Text} {e : RenderError} : q.call name args = .error e →
      q.Fails e

def Answers.route (q : Answers) : Route :=
  .past fun key =>
    match q.condition key with
    | .ok (some false) => false
    | _ => true

/-- A part of the template is left out after this event exactly when the route does so. -/
def Event.Along (route : Route) : Event → Prop
  | .condition key answer => route.condition key = true ↔ answer ≠ some false
  | .call _ _ _ => route.arguments = false
  | _ => True

/-- A run along a route ends with a result when there is no defect on it, and else at the defect,
unless a query fails before. -/
def Finds (q : Answers) (route : Route) (x : Noted Event Interrupt α) (o : Option Defect) : Prop :=
  x.All (Event.Along route) →
    match x.outcome with
    | .ok _ => o = none
    | .error (.broken d) => o = some d
    | .error (.failed e) => q.Fails e

section Finds

variable {q : Answers} {route : Route} {o o' : Option Defect}

theorem finds_ok (a : α) : Finds q route (pure a) none := fun _ => rfl

theorem Finds.bind {x : Noted Event Interrupt α} {f : α → Noted Event Interrupt β}
    (hx : Finds q route x o) (hf : ∀ a, Finds q route (f a) o') :
    Finds q route (x >>= f) (o.or o') := by
  obtain ⟨outcome, notes⟩ := x
  cases outcome with
  | error i =>
    intro h
    have hx' := hx h
    cases i with
    | broken d =>
      change o = some d at hx'
      change o.or o' = some d
      rw [hx']
      rfl
    | failed e => exact hx'
  | ok a =>
    intro h
    have hnone : o = none := hx fun e he => h e (List.mem_append_left _ he)
    rw [hnone, Option.none_or]
    exact hf a fun e he => h e (List.mem_append_right _ he)

theorem Finds.append {x y : Noted Event Interrupt Text} (hx : Finds q route x o)
    (hy : Finds q route y o') : Finds q route (x ++ y) (o.or o') := by
  refine hx.bind fun a => ?_
  simpa using hy.bind fun b => finds_ok (a ++ b)

theorem Finds.framed {x : Noted Event Interrupt Text} (hx : Finds q route x o)
    (opening closing : Text) : Finds q route (q.oracle.framed opening closing x) o := by
  have h : Finds q route (q.oracle.framed opening closing x) ((none.or o).or none) :=
    ((finds_ok opening).append hx).append (finds_ok closing)
  simpa only [Option.none_or, Option.or_none] using h

theorem Finds.note_bind {answer : Except Interrupt α} {event : α → Event}
    {f : α → Noted Event Interrupt β}
    (hfails : ∀ i, answer = .error i → ∃ e, i = .failed e ∧ q.Fails e)
    (hf : ∀ a, (event a).Along route → Finds q route (f a) o) :
    Finds q route (Noted.note event answer >>= f) o := by
  cases answer with
  | error i =>
    obtain ⟨e, rfl, he⟩ := hfails i rfl
    intro _
    exact he
  | ok a =>
    intro h
    have halong : (event a).Along route := h (event a) List.mem_cons_self
    exact hf a halong fun e he => h e (List.mem_cons_of_mem _ he)

theorem Finds.ask_bind {answer : Except ResolveError α} {event : α → Event}
    {f : α → Noted Event Interrupt β}
    (hf : ∀ a, (event a).Along route → Finds q route (f a) o) :
    Finds q route (Noted.note event (ask answer) >>= f) o := by
  refine .note_bind (fun i hi => ?_) hf
  obtain ⟨e, -, rfl⟩ := mapError_eq_error_iff.1 hi
  exact ⟨_, rfl, .unresolved e⟩

theorem finds_value (name : Text) : Finds q route (q.oracle.value name) none :=
  .ask_bind fun _ _ => finds_ok _

theorem finds_spanColor (color : Text) (subject : Option Text) :
    Finds q route (q.oracle.spanColor color subject) none := by
  unfold Oracle.spanColor
  split
  · cases subject with
    | none => exact finds_ok []
    | some name => exact .ask_bind fun _ _ => finds_ok _
  · exact finds_ok color

theorem finds_call (name : Text) (args : List Text) (flaw : Option Defect) :
    Finds q route (q.oracle.call name args) (if route.arguments then flaw else none) := by
  refine .note_bind (fun i hi => ?_) fun answer halong => ?_
  · obtain ⟨e, he, rfl⟩ := mapError_eq_error_iff.1 hi
    exact ⟨e, rfl, .call he⟩
  · have hargs : route.arguments = false := halong
    rw [hargs]
    exact finds_ok _

/-- Rendering ends at the defect of the route that it takes. -/
theorem finds_traverse (q : Answers) (route : Route) (t : Template) :
    Finds q route (t.traverse q.oracle) (t.defectOn route) := by
  induction t with
  | done => exact finds_ok []
  | broken d =>
    intro _
    rfl
  | literal c rest ih => exact (finds_ok [c]).append ih
  | value name rest ih => exact (finds_value name).append ih
  | span color subject body rest ihb ihr =>
    refine (finds_spanColor color subject).bind fun color => ?_
    exact (ihb.framed _ _).append ihr
  | condition key body rest ihb ihr =>
    refine .ask_bind fun answer halong => ?_
    have hkey : route.condition key = true ↔ answer ≠ some false := halong
    rw [defectOn]
    cases answer with
    | none =>
      rw [if_pos (hkey.2 (by simp))]
      exact (ihb.framed _ _).append ihr
    | some holds =>
      cases holds with
      | true =>
        rw [if_pos (hkey.2 (by simp))]
        exact ihb.append ihr
      | false =>
        rw [if_neg (mt hkey.1 (by simp)), Option.none_or]
        exact ihr
  | call name args flaw rest ih => exact (finds_call name args flaw).append ih

theorem Answers.Gives.along {e : Event} (h : q.Gives e) : e.Along q.route := by
  cases e with
  | value | color => trivial
  | call => rfl
  | condition key answer =>
    have hkey : q.condition key = .ok answer := h
    match answer with
    | some true | some false | none => simp [Event.Along, Answers.route, Route.condition, hkey]

theorem defectOn_of_fill {t : Template} {d : Defect} (h : t.fill q = .error (.broken d)) :
    t.defectOn q.route = some d := by
  have hfinds := finds_traverse q q.route t fun e he => (t.all_traverse q e he).along
  rwa [outcome_traverse, h] at hfinds

theorem fails_of_fill {t : Template} {e : RenderError} (h : t.fill q = .error (.failed e)) :
    q.Fails e := by
  have hfinds := finds_traverse q q.route t fun e he => (t.all_traverse q e he).along
  rwa [outcome_traverse, h] at hfinds

/-- Where the rendering of a text meets a defect, it is the leftmost one on its route. -/
theorem least_of_fill {t : Text} {d : Defect} (h : (ofText t).fill q = .error (.broken d)) :
    Least (BrokenFrom q.route 0 t) (some d) := by
  rw [← defectOn_of_fill h]
  exact least_defectOn _ _ _

end Finds

/-- The error of a template that points at the first malformed directive that a traversal comes to.
The directive starts with a character of the template, and is malformed in the body that it is in.
-/
structure Malformed.PointsAt (e : Malformed) (route : Route) (t : Text) : Prop where
  template_eq : e.template = t
  inside : ∃ s c u, t = s ++ c :: u ∧ e.offset = Text.size s
  broken : ∃ outer before rest after, t = outer ++ (before ++ rest) ++ after ∧
    Encloses route t outer (before ++ rest) after ∧ Reaches (before ++ rest) before rest ∧
      e.offset = outer.size + before.size ∧ Broken rest e.fault
  first : ∀ n rest, Visits route 0 t n rest → n < e.offset → ∀ fault, ¬Broken rest fault

theorem pointsAt_within {route : Route} {t : Text} {d : Defect}
    (h : Least (BrokenFrom route 0 t) (some d)) : (d.within t).PointsAt route t := by
  obtain ⟨⟨rest, ⟨outer, body, after, before, hencloses, hreaches, hoffset⟩, hbroken⟩, hleast⟩ := h
  obtain rfl := hreaches.eq_append
  rw [Nat.zero_add] at hoffset
  have ht := hencloses.eq_append
  constructor
  case template_eq => rfl
  case inside =>
    obtain ⟨c, u, rfl⟩ := List.exists_cons_of_ne_nil hbroken.ne_nil
    exact ⟨outer ++ before, c, u ++ after, by simpa using ht, by rwa [Text.size_append]⟩
  case broken => exact ⟨outer, before, rest, after, ht, hencloses, hreaches, hoffset, hbroken⟩
  case first =>
    intro n rest' hv hn fault hb
    have hle : d.offset ≤ n := hleast n fault ⟨rest', hv, hb⟩
    exact absurd hn (Nat.not_lt_of_le hle)

theorem defectOn_of_validate {t : Text} {e : Malformed} (h : validate t = .error e) :
    ∃ d, e = d.within t ∧ (ofText t).defectOn .everywhere = some d := by
  rw [validate] at h
  cases hd : (ofText t).defect? with
  | none => simp [hd] at h
  | some d =>
    simp only [hd, Except.error.injEq] at h
    exact ⟨d, h.symm, by rw [defectOn_everywhere, hd]⟩

theorem validate_of_defectOn {t : Text} {d : Defect}
    (h : (ofText t).defectOn .everywhere = some d) : validate t = .error (d.within t) := by
  rw [defectOn_everywhere] at h
  rw [validate, h]

/-- An error of validation points at the first malformed directive of the template. So does an error
that rendering finds in the form of the template, among the directives that it comes to. -/
theorem errors_point_at_first_broken (t : Text) :
    (∀ e, validate t = .error e → e.PointsAt .everywhere t) ∧
      ∀ (C : Type) (r : Resolver C) (depth : Nat) (scope : C) (d : Defect),
        (ofText t).fill (r.answers (r.render depth) scope) = .error (.broken d) →
          r.render (depth + 1) t scope = .error (.malformed (d.within t)) ∧
            (d.within t).PointsAt (r.answers (r.render depth) scope).route t := by
  constructor
  · intro e he
    obtain ⟨d, rfl, hd⟩ := defectOn_of_validate he
    have hleast := least_defectOn .everywhere 0 t
    rw [← ofText, hd] at hleast
    exact pointsAt_within hleast
  · intro C r depth scope d hd
    refine ⟨?_, pointsAt_within (least_of_fill hd)⟩
    rw [Resolver.render_succ, hd]
    rfl

def sampleResolver : Resolver Unit where
  condition key _ := .ok (if key = "no" then some false else none)
  call _ args _ _ := .ok (some (['+'].intercalate args))

theorem errors_point_at_first_broken_nested :
    Malformed.PointsAt ⟨.unclosed '[' ']', "é@f\x7b[Red:ü]@?k\x7bü[\x7d\x7d", 19⟩ .everywhere
        "é@f\x7b[Red:ü]@?k\x7bü[\x7d\x7d" ∧
      Malformed.PointsAt ⟨.missingColon, "é?no\x7b[x\x7d?k\x7b[Red:@f\x7b?\x7d[ü]]\x7d", 22⟩
        (sampleResolver.answers (sampleResolver.render 3) ()).route
        "é?no\x7b[x\x7d?k\x7b[Red:@f\x7b?\x7d[ü]]\x7d" :=
  ⟨(errors_point_at_first_broken _).1 _ (by cbv),
    ((errors_point_at_first_broken _).2 Unit sampleResolver 3 () ⟨.missingColon, 22⟩ (by cbv)).2⟩

def Answers.NeverMalformed (q : Answers) : Prop :=
  ∀ name args e, q.call name args ≠ .error (.malformed e)

/-- Something is left out of the rendering behind this event: the body of a false condition, or the
arguments of a call. -/
def Event.Skips : Event → Prop
  | .condition _ answer => answer = some false
  | .call _ _ _ => True
  | _ => False

theorem Event.along_everywhere {e : Event} (h : ¬e.Skips) : e.Along .everywhere := by
  cases e with
  | value | color => trivial
  | condition key answer => exact ⟨fun _ => h, fun _ => rfl⟩
  | call => exact absurd trivial h

theorem fill_of_render {r : Resolver C} {depth : Nat} {t : Text} {scope : C} {e : Malformed}
    (hcalls : (r.answers (r.render depth) scope).NeverMalformed)
    (h : r.render (depth + 1) t scope = .error (.malformed e)) :
    ∃ d, e = d.within t ∧
      (ofText t).fill (r.answers (r.render depth) scope) = .error (.broken d) := by
  obtain ⟨i, hi, he⟩ := mapError_eq_error_iff.1 h
  cases i with
  | broken d => exact ⟨d, RenderError.malformed.inj he, hi⟩
  | failed e' =>
    have he' : e' = .malformed e := he.symm
    rw [he'] at hi
    cases fails_of_fill hi with
    | call hcall => exact absurd hcall (hcalls _ _ _)

/-- A template that fails to render for its form is not valid, and validation reports the same error
or one further to the left. It reports the same one when the rendering has left nothing out. -/
theorem validate_of_render_malformed (r : Resolver C) (depth : Nat) (t : Text) (scope : C)
    (e : Malformed) (hcalls : (r.answers (r.render depth) scope).NeverMalformed)
    (h : r.render (depth + 1) t scope = .error (.malformed e)) :
    e.template = t ∧ ∃ e', validate t = .error e' ∧ e'.template = t ∧ e'.offset ≤ e.offset ∧
      ((∀ x ∈ (r.run depth t scope).notes, ¬x.Skips) → e' = e) := by
  obtain ⟨d, rfl, hfill⟩ := fill_of_render hcalls h
  obtain ⟨rest, hvisits, hbroken⟩ := (least_of_fill hfill).1
  have hleast : Least (BrokenFrom .everywhere 0 t) ((ofText t).defectOn .everywhere) :=
    least_defectOn _ _ _
  cases hd : (ofText t).defectOn .everywhere with
  | none =>
    rw [hd] at hleast
    exact absurd ⟨rest, hvisits.everywhere, hbroken⟩ (hleast d.offset d.fault)
  | some d' =>
    rw [hd] at hleast
    refine ⟨rfl, d'.within t, validate_of_defectOn hd, rfl,
      hleast.2 _ _ ⟨rest, hvisits.everywhere, hbroken⟩, fun hnotes => ?_⟩
    have hfinds := finds_traverse (r.answers (r.render depth) scope) .everywhere (ofText t)
      fun x hx => Event.along_everywhere (hnotes x hx)
    rw [outcome_traverse, hfill] at hfinds
    have hsame : some d' = some d := hd.symm.trans hfinds
    rw [Option.some.inj hsame]

theorem validate_of_render_malformed_nested :
    (∃ e', validate "é?no\x7b[x\x7d?k\x7b[Red:@f\x7b?\x7d[ü]]\x7d" = .error e' ∧ e'.offset ≤ 22) ∧
      validate "é?k\x7b[auto:$x [ü]]\x7d[y" =
        .error ⟨.missingColon, "é?k\x7b[auto:$x [ü]]\x7d[y", 14⟩ := by
  have hcalls (depth : Nat) :
      (sampleResolver.answers (sampleResolver.render depth) ()).NeverMalformed := nofun
  constructor
  · obtain ⟨-, e', he', -, hle, -⟩ := validate_of_render_malformed sampleResolver 3
      "é?no\x7b[x\x7d?k\x7b[Red:@f\x7b?\x7d[ü]]\x7d" ()
      ⟨.missingColon, "é?no\x7b[x\x7d?k\x7b[Red:@f\x7b?\x7d[ü]]\x7d", 22⟩ (hcalls 3) (by cbv)
    exact ⟨e', he', hle⟩
  · obtain ⟨-, e', he', -, -, heq⟩ := validate_of_render_malformed sampleResolver 3
      "é?k\x7b[auto:$x [ü]]\x7d[y" () ⟨.missingColon, "é?k\x7b[auto:$x [ü]]\x7d[y", 14⟩ (hcalls 3)
      (by cbv)
    have hnotes : (sampleResolver.run 3 "é?k\x7b[auto:$x [ü]]\x7d[y" ()).notes =
        [.condition "k" none, .color "x" none, .value "x" none] := by cbv
    have hskips : ∀ x ∈ (sampleResolver.run 3 "é?k\x7b[auto:$x [ü]]\x7d[y" ()).notes, ¬x.Skips := by
      rw [hnotes]
      simp [Event.Skips]
    rw [he', heq hskips]

end Listing
