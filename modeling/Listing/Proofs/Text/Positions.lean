import Mathlib
import Listing.Text

namespace Listing

namespace Text

variable {s t : Text} {n : Nat}

/-- A position between two characters of a text, or at one of its ends. -/
def IsBoundary (t : Text) (n : Nat) : Prop := ∃ before : Text, before <+: t ∧ before.size = n

theorem IsBoundary.le (h : t.IsBoundary n) : n ≤ t.size := by
  obtain ⟨before, ⟨after, rfl⟩, rfl⟩ := h
  rw [size_append]
  omega

theorem splitBytes_size (s t : Text) : splitBytes s.size (s ++ t) = (s, t) := by
  induction s with
  | nil =>
    cases t with
    | nil => rfl
    | cons c t =>
      have hpos := c.utf8Size_pos
      simp only [size_nil, List.nil_append, splitBytes]
      rw [if_neg (by omega)]
  | cons c s ih =>
    simp only [size_cons, List.cons_append, splitBytes]
    rw [if_pos (Nat.le_add_right _ _), Nat.add_sub_cancel_left, ih]

theorem splitBytes_of_size_le (h : t.size ≤ n) : splitBytes n t = (t, []) := by
  induction t generalizing n with
  | nil => rfl
  | cons c t ih =>
    rw [size_cons] at h
    simp only [splitBytes]
    rw [if_pos (by omega), ih (by omega)]

def lines (t : Text) : List Text := t.splitOn '\n'

theorem lines_append_newline (s t : Text) : lines (s ++ '\n' :: t) = lines s ++ lines t :=
  List.splitOn_append_cons_self s t

theorem lines_newline_cons (t : Text) : lines ('\n' :: t) = [] :: lines t :=
  lines_append_newline [] t

theorem lines_of_not_mem (h : '\n' ∉ t) : lines t = [t] := List.splitOn_eq_singleton h

theorem lines_cons {c : Char} (hc : c ≠ '\n') (t : Text) :
    ∃ l ls, lines t = l :: ls ∧ lines (c :: t) = (c :: l) :: ls := by
  obtain ⟨l, ls, hl⟩ := List.exists_cons_of_ne_nil (List.splitOn_ne_nil '\n' t)
  refine ⟨l, ls, hl, ?_⟩
  rw [lines, List.splitOn_cons_eq_if_modifyHead, hl, if_neg (by simpa using hc)]
  rfl

theorem utf8Size_newline : '\n'.utf8Size = 1 := by decide

theorem length_lines (t : Text) : (lines t).length = t.count '\n' + 1 := by
  induction t with
  | nil => rfl
  | cons c t ih =>
    by_cases hc : c = '\n'
    · subst hc
      rw [lines_newline_cons, List.length_cons, ih, List.count_cons_self]
    · obtain ⟨l, ls, hl, hlines⟩ := lines_cons hc t
      rw [hl, List.length_cons] at ih
      rw [hlines, List.length_cons, ih, List.count_cons_of_ne hc]

/-- The lines of a text make up its size, with a byte for each newline. -/
theorem sum_lines (t : Text) : ((lines t).map fun l => l.size + 1).sum = t.size + 1 := by
  induction t with
  | nil => rfl
  | cons c t ih =>
    by_cases hc : c = '\n'
    · subst hc
      rw [lines_newline_cons, List.map_cons, List.sum_cons, ih, size_cons, size_nil,
        utf8Size_newline]
      omega
    · obtain ⟨l, ls, hl, hlines⟩ := lines_cons hc t
      rw [hl, List.map_cons, List.sum_cons] at ih
      rw [hlines, List.map_cons, List.sum_cons, size_cons, size_cons]
      omega

end Text

/-- A line of a text and a column in it. Lines are counted from zero, and columns in characters. -/
structure Place where
  row : Nat
  line : Text
  column : Nat

structure Place.IsAt (q : Place) (t : Text) (n : Nat) : Prop where
  line : (Text.lines t)[q.row]? = some q.line
  column : q.column ≤ q.line.length
  position : (((Text.lines t).take q.row).map fun l => l.size + 1).sum +
    Text.size (q.line.take q.column) = n

end Listing
