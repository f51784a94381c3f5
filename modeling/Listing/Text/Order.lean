import Listing.Text

namespace Listing.Text

def precedes : Text → Text → Bool
  | _, [] => false
  | [], _ :: _ => true
  | a :: s, b :: t => decide (a.toNat < b.toNat) || (decide (a = b) && precedes s t)

theorem precedes_irrefl (t : Text) : precedes t t = false := by
  induction t with
  | nil => rfl
  | cons c t ih => simp [precedes, ih]

theorem precedes_trans {r s t : Text} (hrs : precedes r s) (hst : precedes s t) :
    precedes r t := by
  induction r generalizing s t with
  | nil => cases s <;> cases t <;> simp_all [precedes]
  | cons a r ih =>
    match s, t with
    | [], _ => simp [precedes] at hrs
    | _ :: _, [] => simp [precedes] at hst
    | b :: s, c :: t =>
      simp only [precedes, Bool.or_eq_true, decide_eq_true_eq, Bool.and_eq_true] at *
      rcases hrs with h | ⟨rfl, h⟩ <;> rcases hst with k | ⟨rfl, k⟩
      · exact .inl (Nat.lt_trans h k)
      · exact .inl h
      · exact .inl k
      · exact .inr ⟨rfl, ih h k⟩

theorem precedes_asymm {s t : Text} (h : precedes s t) : precedes t s = false := by
  refine Bool.eq_false_iff.2 fun k => ?_
  simpa [precedes_irrefl] using precedes_trans h k

theorem precedes_total (s t : Text) : precedes s t ∨ s = t ∨ precedes t s := by
  induction s generalizing t with
  | nil => cases t <;> simp [precedes]
  | cons a s ih =>
    cases t with
    | nil => simp [precedes]
    | cons b t =>
      simp only [precedes, Bool.or_eq_true, decide_eq_true_eq, Bool.and_eq_true, List.cons.injEq]
      rcases Nat.lt_trichotomy a.toNat b.toNat with h | h | h
      · exact .inl (.inl h)
      · obtain rfl := Char.toNat_inj.1 h
        rcases ih t with k | rfl | k
        · exact .inl (.inr ⟨rfl, k⟩)
        · exact .inr (.inl ⟨rfl, rfl⟩)
        · exact .inr (.inr (.inr ⟨rfl, k⟩))
      · exact .inr (.inr (.inl h))

theorem ne_of_precedes {s t : Text} (h : precedes s t) : s ≠ t := by
  rintro rfl
  simp [precedes_irrefl] at h

end Listing.Text
