import Listing.Color.Terminal
import Listing.Data
import Listing.Dict

namespace Listing

structure Palette where
  aliases : Dict Text
  deriving DecidableEq

/-- Why an alias stands for no color: its chain ends at a name that is neither alias nor color, or
it comes back to a name that it has passed. -/
inductive AliasError
  | dangling (name target : Text)
  | cycle (path : List Text)
  deriving DecidableEq

def AliasError.message : AliasError → Text
  | .dangling name target =>
    ("color alias '" : Text) ++ name ++ ("' points to unknown color '" : Text) ++ target ++
      ("'" : Text)
  | .cycle path => ("cycle in color aliases: " : Text) ++ (" -> " : Text).intercalate path

/-- Where following aliases leads: to a name that is no alias, or back to the chain. A chain that
loops is given up to the first name that it repeats. -/
inductive Chain
  | ends (name : Text)
  | loops (path : List Text)
  deriving DecidableEq

namespace Palette

def empty : Palette := ⟨.empty⟩

def insert (p : Palette) (name target : Text) : Palette := ⟨p.aliases.insert name target⟩

/-- Lays `q` over `p`, whose aliases give way. -/
def overlay (p q : Palette) : Palette := ⟨p.aliases.union q.aliases⟩

def ofList (es : List (Text × Text)) : Palette := ⟨.ofList es⟩

def get? (p : Palette) (name : Text) : Option Text := p.aliases.get? name

def names (p : Palette) : List Text := p.aliases.keys

def size (p : Palette) : Nat := p.aliases.size

def isEmpty (p : Palette) : Bool := p.aliases.entries.isEmpty

def follow (p : Palette) : Nat → List Text → Text → Chain
  | 0, seen, x => .loops (seen ++ [x])
  | n + 1, seen, x =>
    if x ∈ seen then .loops (seen ++ [x])
    else
      match p.get? x with
      | none => .ends x
      | some y => p.follow n (seen ++ [x]) y

/-- The chain that starts at a name. One more step than there are aliases shows where it leads. -/
def chain (p : Palette) (x : Text) : Chain := p.follow (p.size + 1) [] x

def color? (p : Palette) (x : Text) : Option TerminalColor :=
  match p.chain x with
  | .ends y => TerminalColor.ofName? y
  | .loops _ => none

def problem? (p : Palette) (x : Text) : Option AliasError :=
  match p.chain x with
  | .ends y => if (TerminalColor.ofName? y).isSome then none else some (.dangling x y)
  | .loops path => some (.cycle path)

def check (p : Palette) : Except AliasError Unit :=
  match p.names.findSome? p.problem? with
  | none => .ok ()
  | some e => .error e

def toData (p : Palette) : Data := .object (p.aliases.entries.map fun e => (e.1, .text e.2))

def ofData? (d : Data) : Option Palette := do
  let fields ← d.object?
  let es ← fields.mapM fun e => (e.1, ·) <$> e.2.text?
  return ofList es

end Palette

end Listing
