import Listing.Proofs.Outcome
import Listing.Render.Resolver

namespace Listing

variable {C κ ε α β W : Type}

inductive Event
  | value (name : Text) (answer : Option Text)
  | color (name : Text) (answer : Option Text)
  | condition (key : Text) (answer : Option Bool)
  | call (name : Text) (args : List Text) (answer : Option Text)

/-- A run together with the notes that it took before it ended. -/
structure Noted (κ ε α : Type) where
  outcome : Except ε α
  notes : List κ

namespace Noted

instance : Monad (Noted κ ε) where
  pure a := ⟨.ok a, []⟩
  bind x f :=
    match x.outcome with
    | .ok a => ⟨(f a).outcome, x.notes ++ (f a).notes⟩
    | .error e => ⟨.error e, x.notes⟩

def stop (e : ε) : Noted κ ε α := ⟨.error e, []⟩

def note (note : α → κ) (answer : Except ε α) : Noted κ ε α :=
  match answer with
  | .ok a => ⟨.ok a, [note a]⟩
  | .error e => ⟨.error e, []⟩

instance [Append W] : Append (Noted κ ε W) where
  append x y := do
    let a ← x
    let b ← y
    return a ++ b

section Outcome

variable (x : Noted κ ε α) (f : α → Noted κ ε β)

theorem outcome_note (note : α → κ) (answer : Except ε α) :
    (Noted.note note answer).outcome = answer := by
  cases answer <;> rfl

theorem outcome_bind : (x >>= f).outcome = x.outcome >>= fun a => (f a).outcome := by
  obtain ⟨outcome, notes⟩ := x
  cases outcome <;> rfl

theorem outcome_append [Append W] (x y : Noted κ ε W) :
    (x ++ y).outcome = do
      let a ← x.outcome
      let b ← y.outcome
      return a ++ b := by
  change (x >>= fun a => y >>= fun b => pure (a ++ b)).outcome = _
  rw [outcome_bind]
  congr 1
  funext a
  rw [outcome_bind]
  rfl

end Outcome

def All (P : κ → Prop) (x : Noted κ ε α) : Prop := ∀ k ∈ x.notes, P k

namespace All

variable {P : κ → Prop} {x : Noted κ ε α}

theorem pure (a : α) : All P (pure a : Noted κ ε α) := nofun

theorem stop (e : ε) : All P (.stop e : Noted κ ε α) := nofun

theorem note {note : α → κ} {answer : Except ε α} (h : ∀ a, answer = .ok a → P (note a)) :
    All P (Noted.note note answer) := by
  cases answer with
  | error e => nofun
  | ok a => exact List.forall_mem_singleton.2 (h a rfl)

theorem bind {f : α → Noted κ ε β} (hx : All P x) (hf : ∀ a, All P (f a)) : All P (x >>= f) := by
  obtain ⟨outcome, notes⟩ := x
  cases outcome with
  | error e => exact hx
  | ok a => exact List.forall_mem_append.2 ⟨hx, hf a⟩

theorem append [Append W] {x y : Noted κ ε W} (hx : All P x) (hy : All P y) : All P (x ++ y) :=
  hx.bind fun _ => hy.bind fun _ => .pure _

end All

end Noted

/-- What a traversal of a template puts in the place of its parts. -/
structure Oracle (κ ε W : Type) where
  text : Text → W
  broken : Defect → ε
  value : Text → Noted κ ε W
  color : Text → Noted κ ε Text
  condition : Text → Noted κ ε (Option Bool)
  call : Text → List Text → Noted κ ε W

namespace Oracle

variable (o : Oracle κ ε W)

def literal (s : Text) : Noted κ ε W := pure (o.text s)

def framed [Append W] (opening closing : Text) (x : Noted κ ε W) : Noted κ ε W :=
  o.literal opening ++ x ++ o.literal closing

def spanColor (color : Text) (subject : Option Text) : Noted κ ε Text :=
  if Text.agrees color "auto" then
    match subject with
    | none => pure []
    | some name => o.color name
  else pure color

end Oracle

def Template.traverse [Append W] (o : Oracle κ ε W) : Template → Noted κ ε W
  | done => o.literal []
  | broken d => .stop (o.broken d)
  | literal c rest => o.literal [c] ++ rest.traverse o
  | value name rest => o.value name ++ rest.traverse o
  | span color subject body rest => do
    let color ← o.spanColor color subject
    o.framed ('[' :: color ++ [':']) [']'] (body.traverse o) ++ rest.traverse o
  | condition key body rest => do
    match ← o.condition key with
    | some true => body.traverse o ++ rest.traverse o
    | some false => rest.traverse o
    | none => o.framed ('?' :: key ++ ['{']) ['}'] (body.traverse o) ++ rest.traverse o
  | call name args _ rest => o.call name args ++ rest.traverse o

namespace Answers

def answered (event : Option Text → Event) (unknown : Text)
    (answer : Except Interrupt (Option Text)) : Noted Event Interrupt Text := do
  let answer ← Noted.note event answer
  return answer.getD unknown

def oracle (q : Answers) : Oracle Event Interrupt Text where
  text s := s
  broken d := .broken d
  value name := answered (.value name) ('$' :: name) (Template.ask (q.value name))
  color name := answered (.color name) [] (Template.ask (q.color name))
  condition key := Noted.note (.condition key) (Template.ask (q.condition key))
  call name args :=
    answered (.call name args) ('@' :: name ++ '{' :: ['@'].intercalate args ++ ['}'])
      ((q.call name args).mapError .failed)

section Outcome

variable (q : Answers)

theorem outcome_answered (event : Option Text → Event) (unknown : Text)
    (answer : Except Interrupt (Option Text)) :
    (answered event unknown answer).outcome = (·.getD unknown) <$> answer := by
  rw [answered, Noted.outcome_bind, Noted.outcome_note]
  cases answer <;> rfl

theorem outcome_framed (opening closing : Text) (x : Noted Event Interrupt Text) :
    (q.oracle.framed opening closing x).outcome =
      (fun s => opening ++ s ++ closing) <$> x.outcome := by
  rw [Oracle.framed, Noted.outcome_append, Noted.outcome_append]
  cases x.outcome <;> rfl

theorem outcome_spanColor (color : Text) (subject : Option Text) :
    (q.oracle.spanColor color subject).outcome = Template.spanColor q color subject := by
  unfold Oracle.spanColor Template.spanColor
  split
  · cases subject with
    | none => rfl
    | some name => exact outcome_answered _ _ _
  · rfl

end Outcome

end Answers

theorem Template.outcome_traverse (q : Answers) (t : Template) :
    (t.traverse q.oracle).outcome = t.fill q := by
  induction t with
  | done => rfl
  | broken d => rfl
  | literal c rest ih =>
    rw [traverse, Noted.outcome_append, ih, fill]
    cases rest.fill q <;> rfl
  | value name rest ih =>
    have hvalue : (q.oracle.value name).outcome = _ := Answers.outcome_answered _ _ _
    rw [traverse, Noted.outcome_append, ih, fill, hvalue]
    cases ask (q.value name) <;> rfl
  | span color subject body rest ihb ihr =>
    rw [traverse, Noted.outcome_bind, q.outcome_spanColor, fill]
    congr 1
    funext color
    rw [Noted.outcome_append, q.outcome_framed, ihb, ihr]
    cases body.fill q <;> cases rest.fill q <;> simp [Functor.map, Except.map, bind, Except.bind]
  | condition key body rest ihb ihr =>
    have hcondition : (q.oracle.condition key).outcome = ask (q.condition key) :=
      Noted.outcome_note _ _
    rw [traverse, Noted.outcome_bind, hcondition, fill]
    congr 1
    funext answer
    match answer with
    | some true => rw [Noted.outcome_append, ihb, ihr]
    | some false => exact ihr
    | none =>
      rw [Noted.outcome_append, q.outcome_framed, ihb, ihr]
      cases body.fill q <;> cases rest.fill q <;> simp [Functor.map, Except.map, bind, Except.bind]
  | call name args flaw rest ih =>
    have hcall : (q.oracle.call name args).outcome = _ := Answers.outcome_answered _ _ _
    rw [traverse, Noted.outcome_append, ih, fill, hcall]
    cases (q.call name args).mapError Interrupt.failed <;> rfl

def Answers.Gives (q : Answers) : Event → Prop
  | .value name answer => q.value name = .ok answer
  | .color name answer => q.color name = .ok answer
  | .condition key answer => q.condition key = .ok answer
  | .call name args answer => q.call name args = .ok answer

theorem Answers.all_answered {q : Answers} {event : Option Text → Event} {unknown : Text}
    {answer : Except Interrupt (Option Text)} (h : ∀ a, answer = .ok a → q.Gives (event a)) :
    (answered event unknown answer).All q.Gives :=
  (Noted.All.note h).bind fun _ => .pure _

theorem Answers.all_spanColor (q : Answers) (color : Text) (subject : Option Text) :
    (q.oracle.spanColor color subject).All q.Gives := by
  unfold Oracle.spanColor
  split
  · cases subject with
    | none => exact .pure []
    | some name => exact all_answered fun a ha => mapError_eq_ok ha
  · exact .pure color

theorem Answers.all_framed {q : Answers} {x : Noted Event Interrupt Text} (hx : x.All q.Gives)
    (opening closing : Text) : (q.oracle.framed opening closing x).All q.Gives :=
  (Noted.All.append (.pure opening) hx).append (.pure closing)

theorem Template.all_traverse (q : Answers) (t : Template) :
    (t.traverse q.oracle).All q.Gives := by
  induction t with
  | done => exact .pure []
  | broken d => exact .stop _
  | literal c rest ih => exact .append (.pure [c]) ih
  | value name rest ih => exact .append (Answers.all_answered fun a ha => mapError_eq_ok ha) ih
  | span color subject body rest ihb ihr =>
    refine (q.all_spanColor color subject).bind fun color => ?_
    exact .append (Answers.all_framed ihb _ _) ihr
  | condition key body rest ihb ihr =>
    have hcondition : (q.oracle.condition key).All q.Gives := .note fun a ha => mapError_eq_ok ha
    refine hcondition.bind fun answer => ?_
    match answer with
    | some true => exact .append ihb ihr
    | some false => exact ihr
    | none => exact .append (Answers.all_framed ihb _ _) ihr
  | call name args flaw rest ih =>
    exact .append (Answers.all_answered fun a ha => mapError_eq_ok ha) ih

def Resolver.run (r : Resolver C) (depth : Nat) (template : Text) (scope : C) :
    Noted Event Interrupt Text :=
  (Template.ofText template).traverse (r.answers (r.render depth) scope).oracle

/-- Without its notes a run is rendering. -/
theorem Resolver.render_eq_run (r : Resolver C) (depth : Nat) (template : Text) (scope : C) :
    r.render (depth + 1) template scope =
      (r.run depth template scope).outcome.mapError (Interrupt.within template) := by
  rw [render_succ, run, Template.outcome_traverse]

theorem Resolver.all_run (r : Resolver C) (depth : Nat) (template : Text) (scope : C) :
    (r.run depth template scope).All (r.answers (r.render depth) scope).Gives :=
  Template.all_traverse _ _

end Listing
