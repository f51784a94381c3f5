import Listing.Text

namespace Listing.Document

def isSpace (c : Char) : Bool := c == ' ' || c == '\t'

def isBreak (c : Char) : Bool := c == '\n' || c == '\u2028' || c == '\u2029'

def isGap (c : Char) : Bool := isSpace c || isBreak c

def atGap : Text → Bool
  | [] => true
  | c :: _ => isGap c

def isNameChar (c : Char) : Bool := c.isAlphanum || c == '_' || c == '-'

/-- Columns and lines count from zero, and the position is the size of the text before. -/
structure Cursor where
  line : Nat
  column : Nat
  position : Nat
  rest : Text
  deriving DecidableEq

namespace Cursor

def next (k : Cursor) : Cursor :=
  match k.rest with
  | [] => k
  | c :: t =>
    if isBreak c then ⟨k.line + 1, 0, k.position + c.utf8Size, t⟩
    else ⟨k.line, k.column + 1, k.position + c.utf8Size, t⟩

@[simp] theorem rest_next (k : Cursor) : k.next.rest = k.rest.tail := by
  unfold next
  split
  · simp [*]
  · split <;> simp [*]

def advance : Nat → Cursor → Cursor
  | 0, k => k
  | n + 1, k => advance n k.next

@[simp] theorem rest_advance (n : Nat) (k : Cursor) : (advance n k).rest = k.rest.drop n := by
  induction n generalizing k with
  | zero => rfl
  | succ n ih => simp [advance, ih]

def seek (k : Cursor) (rest : Text) : Cursor := k.advance (k.rest.length - rest.length)

theorem length_seek (k : Cursor) (rest : Text) : (k.seek rest).rest.length ≤ k.rest.length := by
  simp [seek]

def skipWhile (k : Cursor) (p : Char → Bool) : Cursor := k.advance (k.rest.takeWhile p).length

theorem length_skipWhile (k : Cursor) (p : Char → Bool) :
    (k.skipWhile p).rest.length ≤ k.rest.length := by
  simp [skipWhile]

def skipComment (k : Cursor) : Cursor :=
  if k.rest.head? = some '#' then k.skipWhile fun c => !isBreak c else k

theorem length_skipComment (k : Cursor) : k.skipComment.rest.length ≤ k.rest.length := by
  unfold skipComment
  split
  · exact length_skipWhile _ _
  · exact Nat.le_refl _

def atMarker (k : Cursor) (mark : Char) : Bool :=
  k.column == 0 && k.rest.take 3 == List.replicate 3 mark && atGap (k.rest.drop 3)

def atAnyMarker (k : Cursor) : Bool := k.atMarker '-' || k.atMarker '.'

end Cursor

structure Gap where
  spaces : Text
  breaks : Text

namespace Gap

def ofText (t : Text) : Gap := ⟨t.takeWhile isSpace, t.filter isBreak⟩

/-- What a gap stands for when lines are folded: one newline for a space, and several for all but
the first. The separators of lines and paragraphs are kept. -/
def folded (g : Gap) : Text :=
  match g.breaks with
  | [] => g.spaces
  | ['\n'] => [' ']
  | '\n' :: more => more
  | more => more

end Gap

def Cursor.gapText (k : Cursor) : Text := k.rest.takeWhile isGap

def Cursor.skipGap (k : Cursor) : Cursor := k.skipWhile isGap

theorem Cursor.length_skipGap (k : Cursor) : k.skipGap.rest.length ≤ k.rest.length :=
  k.length_skipWhile isGap

theorem Cursor.length_skipGap_lt {k : Cursor} {c : Char} {t : Text} (hk : k.rest = c :: t)
    (hc : isGap c = true) : k.skipGap.rest.length < k.rest.length := by
  simp only [skipGap, skipWhile, rest_advance, hk, List.takeWhile_cons, hc, if_true,
    List.length_cons, List.length_drop]
  omega

end Listing.Document
