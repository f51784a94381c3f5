import Listing.Template.Tree

namespace Listing

/-- What a resolver answers when it knows a name and has no value for it: the name needs a list item
and there is none, or the record does not have the value. -/
inductive ResolveError
  | outsideList (name : Text)
  | noValue (name reason : Text)
  deriving DecidableEq

def ResolveError.message : ResolveError → Text
  | .outsideList name => '`' :: name ++ ("` can only be used inside a list" : Text)
  | .noValue name reason =>
    ("cannot resolve `" : Text) ++ name ++ ("`: " : Text) ++ reason

/-- Unknown names are no errors. A template fails when it is malformed, when the resolver fails, or
when calls that render their arguments nest deeper than the renderer allows. -/
inductive RenderError
  | malformed (error : Malformed)
  | unresolved (error : ResolveError)
  | tooDeep
  deriving DecidableEq

def RenderError.message : RenderError → Text
  | .malformed e => ("template syntax error: " : Text) ++ e.message
  | .unresolved e => e.message
  | .tooDeep => "calls are nested too deeply"

structure Separators where
  between : Text
  last : Text
  deriving DecidableEq

namespace Separators

def same (s : Text) : Separators := ⟨s, s⟩

instance : Inhabited Separators := ⟨same " "⟩

/-- Reads the arguments of a list call: the template of an item, the separator, and the separator
before the last item. A missing one is a space, or the same as the other. -/
def ofArguments : List Text → Option (Text × Separators)
  | [] => none
  | [item] => some (item, same " ")
  | [item, between] => some (item, same between)
  | item :: between :: last :: _ => some (item, ⟨between, last⟩)

def join (s : Separators) : List Text → Text
  | [] => []
  | [x] => x
  | [x, y] => x ++ s.last ++ y
  | x :: y :: z :: xs => x ++ s.between ++ join s (y :: z :: xs)

end Separators

variable {C : Type}

structure Answers where
  value : Text → Except ResolveError (Option Text)
  color : Text → Except ResolveError (Option Text)
  condition : Text → Except ResolveError (Option Bool)
  call : Text → List Text → Except RenderError (Option Text)

inductive Interrupt
  | broken (defect : Defect)
  | failed (error : RenderError)
  deriving DecidableEq

def Interrupt.within (template : Text) : Interrupt → RenderError
  | .broken d => .malformed (d.within template)
  | .failed e => e

namespace Template

def ask {α : Type} (answer : Except ResolveError α) : Except Interrupt α :=
  answer.mapError fun e => .failed (.unresolved e)

/-- The color that a span gets. An automatic span gets the color of its subject, or the empty color,
which leaves the text as it is. -/
def spanColor (q : Answers) (color : Text) (subject : Option Text) : Except Interrupt Text :=
  if Text.agrees color "auto" then
    match subject with
    | none => .ok []
    | some name => (·.getD []) <$> ask (q.color name)
  else .ok color

def fill (q : Answers) : Template → Except Interrupt Text
  | done => .ok []
  | broken d => .error (.broken d)
  | literal c rest => (c :: ·) <$> fill q rest
  | value name rest => do
    let answer ← ask (q.value name)
    let out ← fill q rest
    return answer.getD ('$' :: name) ++ out
  | span color subject body rest => do
    let color ← spanColor q color subject
    let inner ← fill q body
    let out ← fill q rest
    return '[' :: color ++ ':' :: inner ++ ']' :: out
  | condition key body rest => do
    match ← ask (q.condition key) with
    | some true =>
      let inner ← fill q body
      let out ← fill q rest
      return inner ++ out
    | some false => fill q rest
    | none =>
      let inner ← fill q body
      let out ← fill q rest
      return '?' :: key ++ '{' :: inner ++ '}' :: out
  | call name args _ rest => do
    let answer ← (q.call name args).mapError .failed
    let out ← fill q rest
    return answer.getD ('@' :: name ++ '{' :: ['@'].intercalate args ++ ['}']) ++ out

end Template

abbrev Renderer (C : Type) := Text → C → Except RenderError Text

def Renderer.list (render : Renderer C) (item : Text) (scopes : List C) (s : Separators) :
    Except RenderError Text :=
  s.join <$> scopes.mapM (render item)

/-- The meaning of the names in a template, relative to a scope. Calls get their arguments raw. -/
structure Resolver (C : Type) where
  value : Text → C → Except ResolveError (Option Text) := fun _ _ => .ok none
  color : Text → C → Except ResolveError (Option Text) := fun _ _ => .ok none
  condition : Text → C → Except ResolveError (Option Bool) := fun _ _ => .ok none
  call : Text → List Text → C → Renderer C → Except RenderError (Option Text) :=
    fun _ _ _ _ => .ok none

namespace Resolver

def unknowing : Resolver C := {}

def answers (r : Resolver C) (render : Renderer C) (scope : C) : Answers where
  value name := r.value name scope
  color name := r.color name scope
  condition key := r.condition key scope
  call name args := r.call name args scope render

/-- Renders a template, where calls that render their arguments may nest to the given depth. -/
def render (r : Resolver C) : Nat → Renderer C
  | 0 => fun _ _ => .error .tooDeep
  | depth + 1 => fun template scope =>
    ((Template.ofText template).fill (r.answers (r.render depth) scope)).mapError
      (Interrupt.within template)

theorem render_succ (r : Resolver C) (depth : Nat) (template : Text) (scope : C) :
    r.render (depth + 1) template scope =
      ((Template.ofText template).fill (r.answers (r.render depth) scope)).mapError
        (Interrupt.within template) := rfl

end Resolver

end Listing
