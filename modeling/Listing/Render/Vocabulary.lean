import Listing.Dict
import Listing.Render.Resolver
import Listing.Text.Quoted

namespace Listing

variable {C : Type}

/-- Answers a call from its raw arguments, the scope and a renderer. It may decline the call. -/
abbrev Callee (C : Type) := List Text → C → Renderer C → Except RenderError (Option Text)

structure Vocabulary (C : Type) where
  values : Dict (C → Except ResolveError Text)
  colors : Dict (C → Except ResolveError (Option Text))
  conditions : Dict (C → Except ResolveError Bool)
  functions : Dict (Callee C)

namespace Vocabulary

def empty : Vocabulary C := ⟨.empty, .empty, .empty, .empty⟩

def defineValue (v : Vocabulary C) (name : Text) (f : C → Except ResolveError Text) :
    Vocabulary C :=
  { v with values := v.values.insert name f }

def defineColor (v : Vocabulary C) (name : Text) (f : C → Except ResolveError (Option Text)) :
    Vocabulary C :=
  { v with colors := v.colors.insert name f }

def defineColors (v : Vocabulary C) (names : List Text)
    (f : C → Except ResolveError (Option Text)) : Vocabulary C :=
  names.foldl (fun v name => v.defineColor name f) v

def defineCondition (v : Vocabulary C) (key : Text) (f : C → Except ResolveError Bool) :
    Vocabulary C :=
  { v with conditions := v.conditions.insert key f }

def defineFunction (v : Vocabulary C) (name : Text) (f : Callee C) : Vocabulary C :=
  { v with functions := v.functions.insert name f }

def resolver (v : Vocabulary C) : Resolver C where
  value name scope :=
    match v.values.get? name with
    | some f => some <$> f scope
    | none => .ok none
  color name scope :=
    match v.colors.get? name with
    | some f => f scope
    | none => .ok none
  condition key scope :=
    match v.conditions.get? key with
    | some f => some <$> f scope
    | none => .ok none
  call name args scope render :=
    match v.functions.get? name with
    | some f => f args scope render
    | none => .ok none

def render (v : Vocabulary C) : Nat → Renderer C := v.resolver.render

def knowsValue (v : Vocabulary C) (name : Text) : Bool := v.values.contains name

def knowsCondition (v : Vocabulary C) (key : Text) : Bool := v.conditions.contains key

def knowsFunction (v : Vocabulary C) (name : Text) : Bool := v.functions.contains name

def valueNames (v : Vocabulary C) : List Text := v.values.keys

def describe (v : Vocabulary C) : Text :=
  ("Registry \x7b variables: " : Text) ++ Text.quotedList v.values.keys ++
    (", auto_colors: " : Text) ++ Text.quotedList v.colors.keys ++
    (", conditions: " : Text) ++ Text.quotedList v.conditions.keys ++
    (", functions: " : Text) ++ Text.quotedList v.functions.keys ++ (" \x7d" : Text)

end Vocabulary

end Listing
