import Mathlib
import Listing.Proofs.Text.Bytes
import Listing.Proofs.Text.Positions

namespace Listing.Text

def IsAscii (c : Char) : Prop := c.toNat < 128

instance (c : Char) : Decidable (IsAscii c) := Nat.decLt _ _

variable {c x : Char} {s t : Text} {n : Nat}

theorem IsAscii.utf8EncodeChar_eq (hc : IsAscii c) : String.utf8EncodeChar c = [c.toUInt8] := by
  have hle : c.val.toNat ≤ 127 := Nat.le_of_lt_succ hc
  unfold String.utf8EncodeChar
  exact if_pos hle

theorem IsAscii.utf8Size_eq (hc : IsAscii c) : c.utf8Size = 1 := by
  rw [← String.length_utf8EncodeChar, hc.utf8EncodeChar_eq]
  rfl

theorem IsAscii.toNat_toUInt8 (hc : IsAscii c) : c.toUInt8.toNat = c.toNat :=
  Nat.mod_eq_of_lt (Nat.lt_trans hc (by decide))

theorem le_of_mem_utf8EncodeChar (hx : ¬IsAscii x) {b : UInt8} (hb : b ∈ String.utf8EncodeChar x) :
    128 ≤ b.toNat := by
  have hlt : ¬x.val.toNat ≤ 127 := fun hle => hx (Nat.lt_succ_of_le hle)
  unfold String.utf8EncodeChar at hb
  simp only [if_neg hlt] at hb
  split_ifs at hb <;> simp only [List.mem_cons, List.not_mem_nil, or_false] at hb
  · rcases hb with rfl | rfl <;> simp only [UInt8.toNat_ofNat'] <;> omega
  · rcases hb with rfl | rfl | rfl <;> simp only [UInt8.toNat_ofNat'] <;> omega
  · rcases hb with rfl | rfl | rfl | rfl <;> simp only [UInt8.toNat_ofNat'] <;> omega

theorem IsAscii.eq_of_mem_utf8EncodeChar (hc : IsAscii c)
    (h : c.toUInt8 ∈ String.utf8EncodeChar x) : x = c := by
  by_cases hx : IsAscii x
  · rw [hx.utf8EncodeChar_eq, List.mem_singleton] at h
    have hnat : x.toNat = c.toNat := by rw [← hx.toNat_toUInt8, ← hc.toNat_toUInt8, h]
    exact Char.toNat_inj.1 hnat
  · have hle := le_of_mem_utf8EncodeChar hx h
    have hlt : c.toNat < 128 := hc
    rw [hc.toNat_toUInt8] at hle
    omega

theorem IsAscii.toUInt8_ne {d : Char} (hc : IsAscii c) (hd : IsAscii d) (hne : c ≠ d) :
    c.toUInt8 ≠ d.toUInt8 := by
  intro h
  refine hne (hd.eq_of_mem_utf8EncodeChar ?_)
  rw [hc.utf8EncodeChar_eq, h]
  exact List.mem_singleton_self _

theorem IsAscii.utf8_cons (hc : IsAscii c) (t : Text) : utf8 (c :: t) = c.toUInt8 :: utf8 t := by
  rw [Text.utf8_cons, hc.utf8EncodeChar_eq]
  rfl

theorem drop_utf8 (s t : Text) : (utf8 (s ++ t)).drop s.size = utf8 t := by
  rw [utf8_append]
  exact List.drop_left' (length_utf8 s)

theorem extract_utf8 {before after : Text} {i j : Nat} (ht : t = before ++ s ++ after)
    (hi : before.size = i) (hj : size (before ++ s) = j) : (utf8 t).extract i j = utf8 s := by
  subst ht hi hj
  rw [List.append_assoc, List.extract, drop_utf8, size_append, Nat.add_sub_cancel_left, utf8_append]
  exact List.take_left' (length_utf8 s)

theorem IsAscii.getElem?_utf8 (hc : IsAscii c) (s t : Text) :
    (utf8 (s ++ c :: t))[s.size]? = some c.toUInt8 := by
  rw [← List.head?_drop, drop_utf8, hc.utf8_cons]
  rfl

/-- Where the byte of such a character is, there is the character. -/
theorem IsAscii.exists_of_getElem?_utf8 (hc : IsAscii c) (h : (utf8 t)[n]? = some c.toUInt8) :
    ∃ before after, t = before ++ c :: after ∧ size before = n := by
  induction t generalizing n with
  | nil => cases h
  | cons x t ih =>
    rw [Text.utf8_cons] at h
    by_cases hn : n < x.utf8Size
    · rw [List.getElem?_append_left (by rwa [String.length_utf8EncodeChar])] at h
      obtain rfl := hc.eq_of_mem_utf8EncodeChar (List.mem_of_getElem? h)
      rw [hc.utf8Size_eq] at hn
      exact ⟨[], t, rfl, by rw [size_nil]; omega⟩
    · rw [List.getElem?_append_right (by rw [String.length_utf8EncodeChar]; omega),
        String.length_utf8EncodeChar] at h
      obtain ⟨before, after, rfl, hsize⟩ := ih h
      exact ⟨x :: before, after, rfl, by rw [size_cons]; omega⟩

theorem isBoundary_of_eq_append {before after : Text} (ht : t = before ++ after)
    (hn : before.size = n) : t.IsBoundary n :=
  ⟨before, ⟨after, ht.symm⟩, hn⟩

end Listing.Text
