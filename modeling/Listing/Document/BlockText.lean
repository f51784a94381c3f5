import Listing.Document.Cursor

namespace Listing.Document

inductive Chomp
  | clip
  | strip
  | keep
  deriving DecidableEq

/-- The header of a text: how its end is treated, and how much deeper than its entry it is indented,
if that is not left to its first lines. -/
structure BlockHeader where
  chomp : Chomp := .clip
  depth : Option Nat := none

def chompOf? (c : Char) : Option Chomp :=
  if c = '-' then some .strip else if c = '+' then some .keep else none

def blockDepth : Text → Option (Option Nat × Text)
  | [] => some (none, [])
  | c :: t =>
    if c = '0' then none
    else if c.isDigit then some (some (c.toNat - '0'.toNat), t)
    else some (none, c :: t)

def blockHeader (t : Text) : Option (BlockHeader × Text) :=
  match t.head?.bind chompOf? with
  | some chomp => (blockDepth t.tail).map fun p => (⟨chomp, p.1⟩, p.2)
  | none => do
    let (depth, t) ← blockDepth t
    match depth, t.head?.bind chompOf? with
    | some _, some chomp => some (⟨chomp, depth⟩, t.tail)
    | _, _ => some (⟨.clip, depth⟩, t)

/-- Skips empty lines and the indentation of the next line. Gives the line breaks, the deepest
column and the place behind. A tab may not be part of the indentation, which is the whole of the
spaces as long as it is not known. -/
def indentation (indent : Option Nat) (deepest : Nat) (k : Cursor) :
    Option (Text × Nat × Cursor) :=
  let spaces := (k.rest.takeWhile (· == ' ')).length
  let k' := k.advance (match indent with
    | some n => min spaces (n - k.column)
    | none => spaces)
  let deepest := max deepest k'.column
  match _h : k'.rest with
  | [] => some ([], deepest, k')
  | c :: _ =>
    if c = '\t' ∧ indent.all (k'.column < ·) then none
    else if isBreak c then
      (indentation indent deepest k'.next).map fun p => (c :: p.1, p.2)
    else some ([], deepest, k')
termination_by k.rest.length
decreasing_by
  have := congrArg List.length _h
  simp only [k', Cursor.rest_advance, List.length_drop, Cursor.rest_next, List.length_tail,
    List.length_cons] at *
  omega

structure BlockJoint where
  first : Text := []
  more : Text := []
  afterSpace : Bool := false

/-- What stands between two lines. If lines are folded, a single newline stands for a space and the
first of several for nothing, unless one of the lines starts with a space. -/
def BlockJoint.text (j : BlockJoint) (folded beforeSpace : Bool) : Text :=
  if folded ∧ j.first = ['\n'] ∧ !j.afterSpace ∧ !beforeSpace then
    if j.more.isEmpty then [' '] else j.more
  else j.first ++ j.more

def blockLines (folded : Bool) (indent : Nat) (j : BlockJoint) (k : Cursor) :
    Option (Text × BlockJoint × Cursor) :=
  match k.rest with
  | [] => some ([], j, k)
  | c :: _ =>
    if k.column = indent then do
      let line := k.rest.takeWhile fun c => !isBreak c
      let behind := k.advance line.length
      let (more, _, k') ← indentation (some indent) 0 behind.next
      if _h : k'.rest.length < k.rest.length then
        let (t, last, k') ← blockLines folded indent ⟨behind.rest.take 1, more, isSpace c⟩ k'
        return (j.text folded (isSpace c) ++ line ++ t, last, k')
      else none
    else some ([], j, k)
termination_by k.rest.length

/-- Reads what follows the bar or bracket that starts a text. The text is indented at least as far
as given, and if its header says nothing, as far as its deepest line up to the first that is not
empty. -/
def blockText (folded : Bool) (indent : Nat) (k : Cursor) : Option (Text × Cursor) := do
  let (header, rest) ← blockHeader k.rest
  let k := ((k.seek rest).skipWhile isSpace).skipComment
  if !k.rest.head?.all isBreak then none
  let fixed := header.depth.map fun n => indent - 1 + n
  let (more, deepest, k) ← indentation fixed 0 k.next
  let indent := fixed.getD (max deepest (max indent 1))
  let (t, last, k) ← blockLines folded indent { more } k
  let tail := match header.chomp with
    | .clip => last.first
    | .strip => []
    | .keep => last.first ++ last.more
  return (t ++ tail, k)

end Listing.Document
