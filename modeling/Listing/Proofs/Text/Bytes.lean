import Mathlib.Tactic.SplitIfs
import Listing.Dict

namespace Listing.Text

theorem ofNat_lt_ofNat {m n : Nat} (hm : m < 256) (hn : n < 256) :
    UInt8.ofNat m < UInt8.ofNat n ↔ m < n := UInt8.ofNat_lt_iff_lt hm hn

theorem ofNat_eq_ofNat {m n : Nat} (hm : m < 256) (hn : n < 256) :
    UInt8.ofNat m = UInt8.ofNat n ↔ m = n := by
  rw [← UInt8.toNat_inj, UInt8.toNat_ofNat', UInt8.toNat_ofNat']
  omega

theorem utf8EncodeChar_lt {a b : Char} (h : a.toNat < b.toNat) (s t : List UInt8) :
    String.utf8EncodeChar a ++ s < String.utf8EncodeChar b ++ t := by
  have hb : b.val.toNat < 0x110000 := b.valid.elim (by omega) (by omega)
  have hab : a.val.toNat < b.val.toNat := h
  have hdigits (k : Nat) : k / 4096 = k / 64 / 64 ∧ k / 262144 = k / 64 / 64 / 64 := by
    simp only [Nat.div_div_eq_div_mul, and_self]
  simp only [String.utf8EncodeChar, hdigits]
  generalize a.val.toNat = m at *
  generalize b.val.toNat = n at *
  -- The first bytes tell forms of different length apart, and the first different group of bits
  -- decides between forms of the same length.
  split_ifs <;>
    simp (disch := omega) only [List.cons_append, List.nil_append, List.cons_lt_cons_iff,
      ofNat_lt_ofNat, ofNat_eq_ofNat] <;>
    omega

theorem utf8_cons (c : Char) (t : Text) : utf8 (c :: t) = String.utf8EncodeChar c ++ utf8 t :=
  List.flatMap_cons

theorem utf8_lt_of_precedes {s t : Text} (h : precedes s t) : utf8 s < utf8 t := by
  induction s generalizing t with
  | nil =>
    cases t with
    | nil => simp [precedes] at h
    | cons b t =>
      rw [utf8_cons]
      obtain ⟨x, xs, hx⟩ := List.exists_cons_of_ne_nil (String.utf8EncodeChar_ne_nil (c := b))
      rw [hx]
      exact List.nil_lt_cons _ _
  | cons a s ih =>
    cases t with
    | nil => simp [precedes] at h
    | cons b t =>
      simp only [precedes, Bool.or_eq_true, decide_eq_true_eq, Bool.and_eq_true] at h
      rw [utf8_cons, utf8_cons]
      rcases h with hab | ⟨rfl, hst⟩
      · exact utf8EncodeChar_lt hab _ _
      · exact List.append_left_lt (ih hst)

theorem precedes_iff {s t : Text} : precedes s t = true ↔ utf8 s < utf8 t := by
  constructor
  · exact utf8_lt_of_precedes
  · intro h
    rcases precedes_total s t with hst | rfl | hts
    · exact hst
    · exact absurd h (List.lt_irrefl _)
    · exact absurd h (List.lt_asymm (utf8_lt_of_precedes hts))

end Listing.Text

theorem Listing.Dict.sorted_utf8_keys {α : Type} (d : Dict α) :
    d.keys.Pairwise fun a b => a.utf8 < b.utf8 :=
  d.sorted_keys.imp Text.precedes_iff.1
