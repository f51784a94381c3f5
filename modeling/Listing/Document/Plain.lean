import Listing.Document.Cursor

namespace Listing.Document

def isFlowMark (c : Char) : Bool := c == ',' || c == '[' || c == ']' || c == '\x7b' || c == '\x7d'

/-- Reads a word of a plain scalar. It ends at a gap, at a colon before a gap, and inside a flow
mapping at its marks. There a colon right before such a mark or a question mark is refused. -/
def plainWord (flow : Bool) : Text → Option Text
  | [] => some []
  | c :: t =>
    if isGap c ∨ (c = ':' ∧ atGap t) ∨ (flow ∧ isFlowMark c) then some []
    else if flow ∧ c = ':' ∧ t.head?.any (fun d => isFlowMark d || d == '?') then none
    else (plainWord flow t).map (c :: ·)

/-- Whether a tab stands in the indentation of a line, that is, left of the given column behind a
line break. The first argument is the column, if a line has been broken. -/
def tabInIndentation (indent : Nat) : Option Nat → Text → Bool
  | _, [] => false
  | column, c :: t =>
    if isBreak c then tabInIndentation indent (some 0) t
    else (c == '\t' && column.any (· < indent)) || tabInIndentation indent (column.map (· + 1)) t

structure Plain where
  text : Text
  cursor : Cursor
  endsLine : Bool

def plain (flow : Bool) (indent : Nat) (k : Cursor) : Option Plain := do
  let word ← plainWord flow k.rest
  if _h : word ≠ [] ∧ k.rest ≠ [] then
    let behind := k.advance word.length
    let gap := behind.gapText
    if tabInIndentation indent none gap then none
    else
      let after := behind.skipGap
      let ended : Plain := ⟨word, after, gap.any isBreak⟩
      if gap.isEmpty ∨ after.atAnyMarker ∨ after.rest.head? = some '#' ∨
          (!flow ∧ after.column < indent) then
        some ended
      else
        let more ← plain flow indent after
        if more.text.isEmpty then some ended
        else some { more with text := word ++ (Gap.ofText gap).folded ++ more.text }
  else some ⟨[], k, false⟩
termination_by k.rest.length
decreasing_by
  have h₁ := behind.length_skipGap
  have h₂ := List.length_pos_iff.2 _h.1
  have h₃ := List.length_pos_iff.2 _h.2
  simp only [behind, after, Cursor.rest_advance, List.length_drop] at *
  omega

end Listing.Document
