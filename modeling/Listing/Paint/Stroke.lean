import Listing.Color.Palette
import Listing.Paint.Token

namespace Listing

structure UnknownColor where
  name : Text
  offset : Nat
  deriving DecidableEq

def UnknownColor.message (e : UnknownColor) : Text :=
  ("unknown color '" : Text) ++ e.name ++ ("' at offset " : Text) ++ Text.decimal e.offset

/-- A character with what it was written as, the start of a span with its color, and the end of a
span with its color and that of the colored span around it. -/
inductive Stroke
  | mark (c : Char) (raw : Text)
  | enter (color : Option TerminalColor) (raw : Text)
  | leave (color around : Option TerminalColor)

namespace Stroke

def literal (t : Text) : List Stroke := t.map fun c => mark c [c]

/-- Whether some token closes a span that is open before these tokens, within which there are
`depth` more. -/
def closes : Nat → List Token → Bool
  | _, [] => false
  | depth, .opening _ _ :: ts => closes (depth + 1) ts
  | 0, .closing :: _ => true
  | depth + 1, .closing :: ts => closes depth ts
  | depth, _ :: ts => closes depth ts

def spanColor (p : Palette) (name : Text) (offset : Nat) :
    Except UnknownColor (Option TerminalColor) :=
  if name = [] then .ok none
  else
    match p.color? name with
    | some k => .ok (some k)
    | none => .error ⟨name, offset⟩

/-- The strokes of tokens inside the spans of a stack, innermost first. Brackets without a partner
are literal. -/
def ofTokens (p : Palette) : List (Option TerminalColor) → List Token →
    Except UnknownColor (List Stroke)
  | _, [] => .ok []
  | stack, .glyph c :: ts => (mark c [c] :: ·) <$> ofTokens p stack ts
  | stack, .escaped c :: ts => (mark c ['\\', c] :: ·) <$> ofTokens p stack ts
  | stack, .opening name offset :: ts =>
    if closes 0 ts then do
      let k ← spanColor p name offset
      let strokes ← ofTokens p (k :: stack) ts
      return enter k (Token.opening name offset).raw :: strokes
    else (literal (Token.opening name offset).raw ++ ·) <$> ofTokens p stack ts
  | k :: stack, .closing :: ts => (leave k (stack.findSome? id) :: ·) <$> ofTokens p stack ts
  | [], .closing :: ts => (mark ']' [']'] :: ·) <$> ofTokens p [] ts

def ofText (p : Palette) (t : Text) : Except UnknownColor (List Stroke) :=
  ofTokens p [] (Token.ofText t)

end Stroke

end Listing
