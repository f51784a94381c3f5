import Listing.Document.Layout
import Listing.Document.Node

namespace Listing.Document

def isAllowed (c : Char) : Bool :=
  c == '\t' || c == '\n' || c == '\r' || decide (0x20 ≤ c.toNat ∧ c.toNat ≤ 0x7E) ||
    c == '\u0085' || decide (0xA0 ≤ c.toNat ∧ c.toNat ≤ 0xFFFD) || decide (0x10000 ≤ c.toNat)

def newlines : Text → Text
  | [] => []
  | '\r' :: '\n' :: t => '\n' :: newlines t
  | '\r' :: t => '\n' :: newlines t
  | '\u0085' :: t => '\n' :: newlines t
  | c :: t => c :: newlines t

def Cursor.ofText (t : Text) : Cursor :=
  let k : Cursor := ⟨0, 0, 0, t⟩
  if t.head? = some '\ufeff' then k.next else k

def tokens? (t : Text) : Option (List Token) :=
  if t.all isAllowed then Layout.tokens? { cursor := .ofText (newlines t) } else none

def Token.directive? : Token → Option Directive
  | .directive d => some d
  | _ => none

def Token.endsDocument : Token → Bool
  | .documentStart | .documentEnd | .directive _ => true
  | _ => false

/-- Reads the content of a document. Directives need a mark behind them, and behind a mark the
content may be missing. -/
def content? (ts : List Token) : Option (Node × List Token) :=
  let directives := (ts.takeWhile (·.directive?.isSome)).filterMap Token.directive?
  match ts.dropWhile (·.directive?.isSome) with
  | .documentStart :: ts => do
    let handles ← Handles.ofDirectives? directives
    if ts.head?.all Token.endsDocument then some (.nothing, ts) else Node.ofTokens? handles ts
  | ts =>
    if directives ≠ [] then none
    else if ts.isEmpty then some (.nothing, [])
    else Node.ofTokens? .standard ts

def read (t : Text) : Option Node := do
  let (root, rest) ← content? (← tokens? t)
  if rest.all (· == .documentEnd) then some root else none

end Listing.Document
