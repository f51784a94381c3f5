import Listing.Document.Quoted

namespace Listing.Document

/-- A tag as it is written. The handle stands for the start of the tag, and is empty if the tag is
written in full. -/
structure Tag where
  handle : Text
  suffix : List UInt8
  deriving DecidableEq

def isTagChar (c : Char) : Bool :=
  isNameChar c ||
    [';', '/', '?', ':', '@', '&', '=', '+', '$', '.', '!', '~', '*', '\x27', '(', ')',
      '%'].contains c

def following? (byte : Nat) : Option Nat :=
  if byte < 0x80 then some 0
  else if byte < 0xC0 then none
  else if byte < 0xE0 then some 1
  else if byte < 0xF0 then some 2
  else if byte < 0xF8 then some 3
  else none

/-- The bytes of a tag in which a percent sign comes before the digits of a byte. The bytes of one
character are written in one row. The argument is the number of bytes that the last one still
needs. -/
def tagBytes : Nat → Text → Option (List UInt8)
  | n, [] => if n = 0 then some [] else none
  | n, '%' :: a :: b :: t => do
    let byte ← hexNumber? [a, b]
    let n ← if n = 0 then following? byte
      else if 0x80 ≤ byte ∧ byte < 0xC0 then some (n - 1) else none
    (tagBytes n t).map (UInt8.ofNat byte :: ·)
  | n, c :: t =>
    if n = 0 ∧ c ≠ '%' then (tagBytes 0 t).map (String.utf8EncodeChar c ++ ·) else none

def tagText (full : Bool) (t : Text) : Option (List UInt8 × Text) :=
  let p := fun c => isTagChar c || (full && (c == ',' || c == '[' || c == ']'))
  (tagBytes 0 (t.takeWhile p)).map fun bytes => (bytes, t.dropWhile p)

def tag (t : Text) : Option (Tag × Text) :=
  match t with
  | '<' :: t => do
    let (bytes, t) ← tagText true t
    match bytes, t with
    | _ :: _, '>' :: t => some (⟨[], bytes⟩, t)
    | _, _ => none
  | t =>
    let name := t.takeWhile isNameChar
    match t.dropWhile isNameChar with
    | '!' :: t => do
      let (bytes, t) ← tagText false t
      if bytes.isEmpty then none else some (⟨'!' :: name ++ ['!'], bytes⟩, t)
    | t => do
      let (bytes, t) ← tagText false t
      let bytes := Text.utf8 name ++ bytes
      some (if bytes.isEmpty then ⟨[], Text.utf8 ['!']⟩ else ⟨['!'], bytes⟩, t)

inductive Directive
  | version (major minor : Nat)
  | handle (name : Text) (start : List UInt8)
  deriving DecidableEq

def versionNumber (t : Text) : Option (Nat × Text) :=
  let digits := t.takeWhile Char.isDigit
  if digits.isEmpty ∨ 9 < digits.length then none
  else some (digits.foldl (fun n c => 10 * n + (c.toNat - '0'.toNat)) 0, t.dropWhile Char.isDigit)

def handleName : Text → Option (Text × Text)
  | '!' :: t =>
    let name := t.takeWhile isNameChar
    match t.dropWhile isNameChar with
    | '!' :: t => some ('!' :: name ++ ['!'], t)
    | t => if name.isEmpty then some (['!'], t) else none
  | _ => none

def directive (t : Text) : Option (Directive × Text) :=
  let name := t.takeWhile isNameChar
  let rest := t.dropWhile isNameChar
  let value := rest.dropWhile isSpace
  if !atGap rest then none
  else if name = ("YAML" : Text) then do
    let (major, t) ← versionNumber value
    match t with
    | '.' :: t => (versionNumber t).map fun p => (.version major p.1, p.2)
    | _ => none
  else if name = ("TAG" : Text) then do
    let (handle, t) ← handleName value
    let (start, rest) ← tagText true (t.dropWhile isSpace)
    if t.head?.any isSpace ∧ start ≠ [] ∧ atGap rest then some (.handle handle start, rest)
    else none
  else none

abbrev Handles := List (Text × List UInt8)

namespace Handles

def standard : Handles := [("!", Text.utf8 "!"), ("!!", Text.utf8 "tag:yaml.org,2002:")]

/-- The handles of a document with the given directives. Each may be given once, and only the
versions 1.1 and 1.2 are known. -/
def ofDirectives? (ds : List Directive) : Option Handles :=
  let versions := ds.filterMap fun
    | .version major minor => some (major, minor)
    | .handle _ _ => none
  let handles := ds.filterMap fun
    | .handle name start => some (name, start)
    | .version _ _ => none
  if versions.length ≤ 1 ∧ versions.all (fun v => v == (1, 1) || v == (1, 2)) ∧
      (handles.map Prod.fst).Nodup then
    some (handles ++ standard)
  else none

def resolve? (hs : Handles) (t : Tag) : Option (List UInt8) :=
  if t.handle.isEmpty then some t.suffix else (hs.lookup t.handle).map (· ++ t.suffix)

end Handles

inductive Token
  | documentStart
  | documentEnd
  | directive (d : Directive)
  | blockStart
  | blockEnd
  | flowStart
  | flowEnd
  | comma
  | key
  | value
  | anchor (name : Text)
  | alias (name : Text)
  | tag (t : Tag)
  | scalar (isPlain : Bool) (text : Text)
  deriving DecidableEq

end Listing.Document
