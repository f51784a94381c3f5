import Listing.Document.BlockText
import Listing.Document.Plain
import Listing.Document.Token

namespace Listing.Document

/-- A place where a key may have started, and the number of tokens before it. A key is needed
where the indentation is that of the keys before. -/
structure KeyStart where
  line : Nat
  column : Nat
  position : Nat
  tokens : Nat
  isNeeded : Bool

def KeyStart.reaches (s : KeyStart) (k : Cursor) : Bool :=
  s.line == k.line && k.position ≤ s.position + 1024

/-- A document that is read up to a place: the tokens so far with the last one first, the columns of
the open blocks with the innermost first, where a key may have started in the innermost flow mapping
and in what is around it, and whether a key may start here. -/
structure Layout where
  cursor : Cursor
  tokens : List Token := []
  blocks : List Nat := []
  start : Option KeyStart := none
  outer : List (Option KeyStart) := []
  allowsKey : Bool := true

namespace Layout

def inFlow (s : Layout) : Bool := !s.outer.isEmpty

def indent (s : Layout) : Nat :=
  match s.blocks with
  | [] => 0
  | n :: _ => n + 1

def emit (s : Layout) (t : Token) : Layout := { s with tokens := t :: s.tokens }

def insert (s : Layout) (n : Nat) (t : Token) : Layout :=
  let k := s.tokens.length - n
  { s with tokens := s.tokens.take k ++ t :: s.tokens.drop k }

def closeBlocks (s : Layout) (isRight : Nat → Bool) : Layout :=
  if s.inFlow then s
  else
    let closed := s.blocks.takeWhile isRight
    { s with
      blocks := s.blocks.dropWhile isRight
      tokens := List.replicate closed.length .blockEnd ++ s.tokens }

/-- Starts a block behind the first tokens, if a key at this column does not belong to one. -/
def openBlock (s : Layout) (column n : Nat) : Layout :=
  if s.inFlow ∨ column < s.indent then s
  else { s.insert n .blockStart with blocks := column :: s.blocks }

def dropStart? (s : Layout) : Option Layout :=
  if s.start.any (·.isNeeded) then none else some { s with start := none }

def markStart? (s : Layout) : Option Layout :=
  if s.allowsKey then do
    let s ← s.dropStart?
    let k := s.cursor
    let isNeeded := !s.inFlow && s.blocks.head? == some k.column
    return { s with start := some ⟨k.line, k.column, k.position, s.tokens.length, isNeeded⟩ }
  else some s

def dropFarStarts? (s : Layout) : Option Layout :=
  let check : Option KeyStart → Option (Option KeyStart)
    | none => some none
    | some p =>
      if p.reaches s.cursor then some (some p)
      else if p.isNeeded then none
      else some none
  match check s.start, s.outer.mapM check with
  | some start, some outer => some { s with start, outer }
  | _, _ => none

/-- Skips spaces, comments and line breaks. Tabs are skipped where no key may start. A key may start
on a new line, if it is not in a flow mapping. -/
def skipIdle (inFlow : Bool) (allowsKey : Bool) (k : Cursor) : Cursor × Bool :=
  let k' := (k.skipWhile fun c => c == ' ' || (c == '\t' && (inFlow || !allowsKey))).skipComment
  match _h : k'.rest with
  | [] => (k', allowsKey)
  | c :: _ =>
    if isBreak c then skipIdle inFlow (allowsKey || !inFlow) k'.next else (k', allowsKey)
termination_by k.rest.length
decreasing_by
  have h₁ := Cursor.length_skipComment
    (k.skipWhile fun c => c == ' ' || (c == '\t' && (inFlow || !allowsKey)))
  have h₂ := Cursor.length_skipWhile k fun c => c == ' ' || (c == '\t' && (inFlow || !allowsKey))
  have h₃ := congrArg List.length _h
  simp only [k', Cursor.rest_next, List.length_tail, List.length_cons] at *
  omega

def skip (s : Layout) : Layout :=
  let (cursor, allowsKey) := skipIdle s.inFlow s.allowsKey s.cursor
  { s with cursor, allowsKey }

def finish? (s : Layout) : Option Layout := do
  let s ← (s.closeBlocks fun _ => true).dropStart?
  return { s with allowsKey := false }

def directive? (s : Layout) (t : Text) : Option Layout := do
  let s ← s.finish?
  let (d, rest) ← directive t
  let k := ((s.cursor.seek rest).skipWhile isSpace).skipComment
  if k.rest.head?.all isBreak then return { s.emit (.directive d) with cursor := k.next } else none

def marker? (s : Layout) (t : Token) : Option Layout := do
  let s ← s.finish?
  return { s.emit t with cursor := s.cursor.advance 3 }

def openFlow? (s : Layout) : Option Layout := do
  let s ← s.markStart?
  return { s.emit .flowStart with
    cursor := s.cursor.next, start := none, outer := s.start :: s.outer, allowsKey := true }

def closeFlow? (s : Layout) : Option Layout :=
  match s.outer with
  | [] => none
  | start :: outer =>
    some { s.emit .flowEnd with cursor := s.cursor.next, start, outer, allowsKey := false }

def comma? (s : Layout) : Option Layout :=
  if s.inFlow then
    some { s.emit .comma with cursor := s.cursor.next, start := none, allowsKey := true }
  else none

def key? (s : Layout) : Option Layout :=
  if s.inFlow ∨ s.allowsKey then do
    let s ← (s.openBlock s.cursor.column s.tokens.length).dropStart?
    return { s.emit .key with cursor := s.cursor.next, allowsKey := !s.inFlow }
  else none

def value? (s : Layout) : Option Layout :=
  let after := fun s : Layout => { s.emit .value with cursor := s.cursor.next, start := none }
  match s.start with
  | some p =>
    some { after ((s.insert p.tokens .key).openBlock p.column p.tokens) with allowsKey := false }
  | none =>
    if s.inFlow ∨ s.allowsKey then
      some { after (s.openBlock s.cursor.column s.tokens.length) with allowsKey := !s.inFlow }
    else none

def endsName (c : Char) : Bool := ['?', ':', ',', ']', '\x7d', '%', '@', '\x60'].contains c

def name? (s : Layout) (token : Text → Token) (t : Text) : Option Layout := do
  let s ← s.markStart?
  let name := t.takeWhile isNameChar
  let rest := t.dropWhile isNameChar
  if name ≠ [] ∧ (atGap rest ∨ rest.head?.any endsName) then
    return { s.emit (token name) with cursor := s.cursor.seek rest, allowsKey := false }
  else none

def tag? (s : Layout) (t : Text) : Option Layout := do
  let s ← s.markStart?
  let (tag, rest) ← tag t
  if atGap rest ∨ (s.inFlow ∧ rest.head? = some ',') then
    return { s.emit (.tag tag) with cursor := s.cursor.seek rest, allowsKey := false }
  else none

def quoted? (s : Layout) (quote : Char) : Option Layout := do
  let s ← s.markStart?
  let (text, cursor) ← quoted quote s.cursor.next
  return { s.emit (.scalar false text) with cursor, allowsKey := false }

def blockText? (s : Layout) (folded : Bool) : Option Layout :=
  if s.inFlow then none
  else do
    let s ← s.dropStart?
    let (text, cursor) ← blockText folded s.indent s.cursor.next
    return { s.emit (.scalar false text) with cursor, allowsKey := true }

def plain? (s : Layout) : Option Layout := do
  let s ← s.markStart?
  let p ← plain s.inFlow s.indent s.cursor
  return { s.emit (.scalar true p.text) with cursor := p.cursor, allowsKey := p.endsLine }

def token? (s : Layout) (c : Char) (t : Text) : Option Layout :=
  if c = '%' ∧ s.cursor.column = 0 then s.directive? t
  else if s.cursor.atMarker '-' then s.marker? .documentStart
  else if s.cursor.atMarker '.' then s.marker? .documentEnd
  else
    match c with
    | '\x7b' => s.openFlow?
    | '\x7d' => s.closeFlow?
    | ',' => s.comma?
    | '?' => if s.inFlow ∨ atGap t then s.key? else s.plain?
    | ':' => if s.inFlow ∨ atGap t then s.value? else s.plain?
    | '&' => s.name? .anchor t
    | '*' => s.name? .alias t
    | '!' => s.tag? t
    | '|' => s.blockText? false
    | '>' => s.blockText? true
    | '\x27' | '\x22' => s.quoted? c
    | '-' => if atGap t then none else s.plain?
    | '\t' | '[' | ']' | '#' | '%' | '@' | '\x60' => none
    | _ => s.plain?

def tokens? (s : Layout) : Option (List Token) := do
  let next ← s.skip.dropFarStarts?
  let column := next.cursor.column
  let next := next.closeBlocks (column < ·)
  match next.cursor.rest with
  | [] => (·.tokens.reverse) <$> next.finish?
  | c :: t => do
    let after ← next.token? c t
    if _h : after.cursor.rest.length < s.cursor.rest.length then after.tokens? else none
termination_by s.cursor.rest.length

end Layout

end Listing.Document
