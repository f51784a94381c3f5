import Listing.Document.Cursor

namespace Listing.Document

def unescape : Char → Option Char
  | '0' => some '\x00'
  | 'a' => some '\x07'
  | 'b' => some '\x08'
  | 't' | '\t' => some '\t'
  | 'n' => some '\n'
  | 'v' => some '\x0b'
  | 'f' => some '\x0c'
  | 'r' => some '\r'
  | 'e' => some '\x1b'
  | ' ' => some ' '
  | '\x22' => some '\x22'
  | '/' => some '/'
  | '\\' => some '\\'
  | 'N' => some '\u0085'
  | '_' => some '\u00a0'
  | 'L' => some '\u2028'
  | 'P' => some '\u2029'
  | _ => none

def hexNumber? (digits : Text) : Option Nat :=
  (digits.mapM Text.hexDigit?).map fun ds => ds.foldl (fun n d => 16 * n + d) 0

def charOfHex (digits : Text) : Option Char := do
  let n ← hexNumber? digits
  if n.isValidChar then some (Char.ofNat n) else none

def singleWord : Text → Text × Text
  | [] => ([], [])
  | '\x27' :: '\x27' :: t => let (word, t) := singleWord t; ('\x27' :: word, t)
  | c :: t =>
    if c = '\x27' ∨ isGap c then ([], c :: t)
    else let (word, t) := singleWord t; (c :: word, t)

/-- Reads a word in double quotes, up to a gap, a backslash at the end of a line or the closing
quote. Any other backslash starts an escape. -/
def doubleWord : Text → Option (Text × Text)
  | [] => some ([], [])
  | '\\' :: 'x' :: a :: b :: t => do
    let c ← charOfHex [a, b]
    let (word, t) ← doubleWord t
    return (c :: word, t)
  | '\\' :: 'u' :: a :: b :: c :: d :: t => do
    let e ← charOfHex [a, b, c, d]
    let (word, t) ← doubleWord t
    return (e :: word, t)
  | '\\' :: 'U' :: a :: b :: c :: d :: e :: f :: g :: h :: t => do
    let i ← charOfHex [a, b, c, d, e, f, g, h]
    let (word, t) ← doubleWord t
    return (i :: word, t)
  | '\\' :: c :: t =>
    if isBreak c then some ([], '\\' :: c :: t)
    else do
      let e ← unescape c
      let (word, t) ← doubleWord t
      return (e :: word, t)
  | c :: t =>
    if c = '\x22' ∨ isGap c then some ([], c :: t)
    else (doubleWord t).map fun p => (c :: p.1, p.2)

/-- Reads what follows an opening quote. Lines are folded, except that a backslash before a line
break joins the lines. The mark of a document may not start a line. -/
def quoted (quote : Char) (k : Cursor) : Option (Text × Cursor) := do
  if k.atAnyMarker then none
  let (word, rest) ← if quote = '\x27' then some (singleWord k.rest) else doubleWord k.rest
  let behind := k.seek rest
  match _h : behind.rest with
  | [] => none
  | c :: _ =>
    if c = quote then return (word, behind.next)
    else if c = '\\' then
      let (more, k) ← quoted quote behind.next.skipGap
      return (word ++ (Gap.ofText behind.next.gapText).breaks.tail ++ more, k)
    else if _g : isGap c then
      let (more, k) ← quoted quote behind.skipGap
      return (word ++ (Gap.ofText behind.gapText).folded ++ more, k)
    else none
termination_by k.rest.length
decreasing_by
  · have h₁ := behind.next.length_skipGap
    have h₂ := k.length_seek rest
    have h₃ := congrArg List.length _h
    simp only [Cursor.rest_next, List.length_tail, List.length_cons, behind] at *
    omega
  · exact Nat.lt_of_lt_of_le (Cursor.length_skipGap_lt _h _g) (k.length_seek rest)

end Listing.Document
