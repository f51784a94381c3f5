namespace Listing

/-- Positions in a text are counted in bytes of its UTF-8 form. -/
abbrev Text := List Char

instance : Coe String Text := ⟨String.toList⟩

namespace Text

def size : Text → Nat
  | [] => 0
  | c :: t => c.utf8Size + size t

@[simp] theorem size_nil : size [] = 0 := rfl

@[simp] theorem size_cons (c : Char) (t : Text) : size (c :: t) = c.utf8Size + size t := rfl

@[simp] theorem size_append (s t : Text) : size (s ++ t) = size s + size t := by
  induction s with
  | nil => simp
  | cons c s ih => simp [ih, Nat.add_assoc]

def utf8 (t : Text) : List UInt8 := t.flatMap String.utf8EncodeChar

@[simp] theorem utf8_append (s t : Text) : utf8 (s ++ t) = utf8 s ++ utf8 t :=
  List.flatMap_append

theorem length_utf8 (t : Text) : (utf8 t).length = size t := by
  induction t with
  | nil => rfl
  | cons c t ih =>
    rw [utf8, List.flatMap_cons, List.length_append, String.length_utf8EncodeChar, size_cons, ← ih]
    rfl

/-- Splits a text at a position. A position past the end is the end. -/
def splitBytes : Nat → Text → Text × Text
  | _, [] => ([], [])
  | n, c :: t =>
    if c.utf8Size ≤ n then
      let (before, after) := splitBytes (n - c.utf8Size) t
      (c :: before, after)
    else ([], c :: t)

def decimal (n : Nat) : Text := Nat.toDigits 10 n

def hexDigit? (c : Char) : Option Nat :=
  if '0' ≤ c ∧ c ≤ '9' then some (c.toNat - '0'.toNat)
  else if 'a' ≤ c ∧ c ≤ 'f' then some (c.toNat - 'a'.toNat + 10)
  else if 'A' ≤ c ∧ c ≤ 'F' then some (c.toNat - 'A'.toNat + 10)
  else none

/-- Two texts agree when they differ at most in the case of ASCII letters. -/
def agrees (s t : Text) : Bool := s.map Char.toLower == t.map Char.toLower

def cut (c : Char) : Text → Option (Text × Text)
  | [] => none
  | x :: t => if x = c then some ([], t) else (cut c t).map fun p => (x :: p.1, p.2)

theorem cut_eq_some {c : Char} {t before after : Text} (h : cut c t = some (before, after)) :
    t = before ++ c :: after := by
  induction t generalizing before with
  | nil => simp [cut] at h
  | cons x t ih =>
    rw [cut] at h
    split at h
    · next hx =>
      simp only [Option.some.injEq, Prod.mk.injEq] at h
      obtain ⟨rfl, rfl⟩ := h
      simp [hx]
    · simp only [Option.map_eq_some_iff, Prod.mk.injEq] at h
      obtain ⟨p, hp, rfl, rfl⟩ := h
      simpa using ih hp

theorem not_mem_of_cut {c : Char} {t before after : Text} (h : cut c t = some (before, after)) :
    c ∉ before := by
  induction t generalizing before with
  | nil => simp [cut] at h
  | cons x t ih =>
    rw [cut] at h
    split at h
    · simp_all
    · next hx =>
      simp only [Option.map_eq_some_iff, Prod.mk.injEq] at h
      obtain ⟨p, hp, rfl, rfl⟩ := h
      simpa [Ne.symm hx] using ih hp

def inRanges (rs : List (Nat × Nat)) (c : Char) : Bool :=
  rs.any fun r => decide (r.1 ≤ c.toNat) && decide (c.toNat ≤ r.2)

/-- Characters with the Unicode property White_Space. -/
def blankRanges : List (Nat × Nat) :=
  [(0x09, 0x0D), (0x20, 0x20), (0x85, 0x85), (0xA0, 0xA0), (0x1680, 0x1680), (0x2000, 0x200A),
   (0x2028, 0x2029), (0x202F, 0x202F), (0x205F, 0x205F), (0x3000, 0x3000)]

def isBlank (c : Char) : Bool := inRanges blankRanges c

def trimStart (t : Text) : Text := t.dropWhile isBlank

def trim (t : Text) : Text := (trimStart (trimStart t).reverse).reverse

end Text

end Listing
