import Listing.Text

namespace Listing

/-- An opening token has a name, which may be empty, and the position of its bracket. -/
inductive Token
  | glyph (c : Char)
  | escaped (c : Char)
  | opening (name : Text) (offset : Nat)
  | closing
  deriving DecidableEq

def isMark (c : Char) : Bool := c == '[' || c == ']' || c == '\\'

/-- Writes a text so that it is painted as it is, also within a span. -/
def escape (t : Text) : Text := t.flatMap fun c => if isMark c then ['\\', c] else [c]

namespace Token

def raw : Token → Text
  | glyph c => [c]
  | escaped c => ['\\', c]
  | opening name _ => '[' :: name ++ [':']
  | closing => [']']

def endsName (c : Char) : Bool := c == ':' || isMark c || c == '\n'

def spanName (t : Text) : Option (Text × Text) :=
  match t.dropWhile fun c => !endsName c with
  | ':' :: rest => some (t.takeWhile fun c => !endsName c, rest)
  | _ => none

theorem spanName_eq_some {t name rest : Text} (h : spanName t = some (name, rest)) :
    t = name ++ ':' :: rest := by
  rw [spanName] at h
  split at h
  · next r hr =>
    simp only [Option.some.injEq, Prod.mk.injEq] at h
    obtain ⟨rfl, rfl⟩ := h
    have ht := List.takeWhile_append_dropWhile (p := fun c => !endsName c) (l := t)
    rw [hr] at ht
    exact ht.symm
  · simp at h

def readFrom (pos : Nat) (t : Text) : List Token :=
  match t with
  | [] => []
  | '\\' :: c :: t =>
    if isMark c then escaped c :: readFrom (pos + 2) t
    else glyph '\\' :: readFrom (pos + 1) (c :: t)
  | '[' :: t =>
    match _h : spanName t with
    | some (name, rest) => opening name pos :: readFrom (pos + name.size + 2) rest
    | none => glyph '[' :: readFrom (pos + 1) t
  | ']' :: t => closing :: readFrom (pos + 1) t
  | c :: t => glyph c :: readFrom (pos + c.utf8Size) t
termination_by t.length
decreasing_by
  · simp only [List.length_cons]
    omega
  · simp
  · rw [spanName_eq_some _h]
    simp
    omega
  · simp
  · simp
  · simp

def ofText (t : Text) : List Token := readFrom 0 t

end Token

end Listing
