import Mathlib
import Listing.Proofs.Template.Nested
import Listing.Proofs.Text.Positions
import Listing.Template.Defect

namespace Listing

variable {s t : Text}

theorem Text.eq_nil_of_size_eq_zero (h : t.size = 0) : t = [] := by
  cases t with
  | nil => rfl
  | cons c t =>
    have hpos := c.utf8Size_pos
    rw [size_cons] at h
    omega

theorem Text.decimal_injective {m n : Nat} (h : decimal m = decimal n) : m = n := by
  calc m = Nat.ofDigitChars 10 (decimal m) 0 := Nat.ofDigitChars_ten_toDigits.symm
    _ = Nat.ofDigitChars 10 (decimal n) 0 := by rw [h]
    _ = n := Nat.ofDigitChars_ten_toDigits

/-- A line with a caret under one of its characters, and a message behind the caret. The line of a
text that has several gets its number as a header. -/
def Place.drawn (q : Place) (t message : Text) : Text :=
  (if '\n' ∈ t then ("line " : Text) ++ Text.decimal (q.row + 1) ++ (":\n" : Text) else []) ++
    q.line ++ '\n' :: List.replicate q.column ' ' ++ ("^ " : Text) ++ message

namespace Malformed

open Text (lines)

theorem firstLine_of_not_mem (h : '\n' ∉ t) : firstLine t = t := by
  rw [firstLine, List.takeWhile_eq_self_iff]
  intro c hc
  have hne : c ≠ '\n' := by
    rintro rfl
    exact h hc
  simpa using hne

theorem firstLine_append (h : '\n' ∉ s) (t : Text) : firstLine (s ++ '\n' :: t) = s := by
  have hs : firstLine s = s := firstLine_of_not_mem h
  rw [firstLine, List.takeWhile_append, ← firstLine, hs]
  simp

theorem lastLine_eq_reverse (t : Text) : lastLine t = (firstLine t.reverse).reverse := rfl

theorem lastLine_of_not_mem (h : '\n' ∉ t) : lastLine t = t := by
  rw [lastLine_eq_reverse, firstLine_of_not_mem (by simpa using h), List.reverse_reverse]

theorem lastLine_append (s : Text) (h : '\n' ∉ t) : lastLine (s ++ '\n' :: t) = t := by
  have hreverse : (s ++ '\n' :: t).reverse = t.reverse ++ '\n' :: s.reverse := by simp
  rw [lastLine_eq_reverse, hreverse, firstLine_append (by simpa using h), List.reverse_reverse]

theorem exists_last_newline (h : '\n' ∈ t) :
    ∃ before after, t = before ++ '\n' :: after ∧ '\n' ∉ after := by
  obtain ⟨after, before, hreverse, hafter⟩ := List.eq_append_cons_of_mem (List.mem_reverse.2 h)
  refine ⟨before.reverse, after.reverse, ?_, by simpa using hafter⟩
  rw [← List.reverse_inj, hreverse]
  simp

theorem lines_append_of_not_mem (h : '\n' ∉ s) (t : Text) :
    lines (s ++ t) = (s ++ firstLine t) :: (lines t).tail := by
  by_cases ht : '\n' ∈ t
  · obtain ⟨r, u, rfl, hr⟩ := List.eq_append_cons_of_mem ht
    have hsr : '\n' ∉ s ++ r := by simp [h, hr]
    rw [← List.append_assoc, Text.lines_append_newline, Text.lines_append_newline,
      Text.lines_of_not_mem hsr, Text.lines_of_not_mem hr, firstLine_append hr]
    rfl
  · have hst : '\n' ∉ s ++ t := by simp [h, ht]
    rw [Text.lines_of_not_mem hst, Text.lines_of_not_mem ht, firstLine_of_not_mem ht]
    rfl

theorem isAt_append (s t : Text) :
    Place.IsAt ⟨s.count '\n', lastLine s ++ firstLine t, (lastLine s).length⟩ (s ++ t) s.size := by
  by_cases hs : '\n' ∈ s
  · obtain ⟨r, u, rfl, hu⟩ := exists_last_newline hs
    have hcount : (r ++ '\n' :: u).count '\n' = (lines r).length := by
      rw [Text.length_lines, List.count_append, List.count_cons_self,
        List.count_eq_zero_of_not_mem hu]
    have hlines : lines (r ++ '\n' :: u ++ t) =
        lines r ++ (u ++ firstLine t) :: (lines t).tail := by
      rw [List.append_assoc, List.cons_append, Text.lines_append_newline,
        lines_append_of_not_mem hu]
    rw [hcount, lastLine_append r hu]
    refine ⟨?_, by simp, ?_⟩
    · rw [hlines, List.getElem?_append_right (Nat.le_refl _), Nat.sub_self]
      rfl
    · simp only [hlines, List.take_left, Text.sum_lines, Text.size_append, Text.size_cons,
        Text.utf8Size_newline]
      omega
  · rw [List.count_eq_zero_of_not_mem hs, lastLine_of_not_mem hs]
    refine ⟨?_, by simp, ?_⟩
    · simp [lines_append_of_not_mem hs]
    · simp

theorem excerpt_append {offset : Nat} (fault : Fault) (h : min offset (s ++ t).size = s.size) :
    excerpt ⟨fault, s ++ t, offset⟩ =
      Place.drawn ⟨s.count '\n', lastLine s ++ firstLine t, (lastLine s).length⟩ (s ++ t)
        fault.message := by
  have hsplit : Text.splitBytes offset (s ++ t) = (s, t) := by
    rcases Nat.le_total offset (s ++ t).size with hle | hle
    · rw [Nat.min_eq_left hle] at h
      rw [h, Text.splitBytes_size]
    · rw [Nat.min_eq_right hle, Text.size_append] at h
      obtain rfl := Text.eq_nil_of_size_eq_zero (t := t) (by omega)
      rw [Text.splitBytes_of_size_le hle, List.append_nil]
  simp only [excerpt, hsplit, Place.drawn, List.append_assoc]

theorem exists_place (fault : Fault) (offset : Nat) (h : t.IsBoundary (min offset t.size)) :
    ∃ q : Place, q.IsAt t (min offset t.size) ∧
      excerpt ⟨fault, t, offset⟩ = q.drawn t fault.message := by
  obtain ⟨before, ⟨after, rfl⟩, hsize⟩ := h
  refine ⟨_, ?_, excerpt_append fault hsize.symm⟩
  rw [← hsize]
  exact isAt_append before after

theorem colon_not_mem_number (n : Nat) : ':' ∉ ("line " : Text) ++ Text.decimal n := by
  intro h
  rcases List.mem_append.1 h with h | h
  · revert h
    decide
  · have hdigit : ':'.isDigit = true := Nat.isDigit_of_mem_toDigits (by decide) (by decide) h
    cases hdigit

theorem row_eq_of_drawn_eq {q q' : Place} {m n : Nat} {message : Text} (hq : q.IsAt t m)
    (hq' : q'.IsAt t n) (h : q.drawn t message = q'.drawn t message) : q.row = q'.row := by
  by_cases ht : '\n' ∈ t
  · -- The number of the line ends at the first colon.
    have hcut (q : Place) : (Text.cut ':' (q.drawn t message)).map Prod.fst =
        some (("line " : Text) ++ Text.decimal (q.row + 1)) := by
      have hdrawn : q.drawn t message = ("line " : Text) ++ Text.decimal (q.row + 1) ++
          ':' :: '\n' :: (q.line ++ '\n' :: List.replicate q.column ' ' ++ ("^ " : Text) ++
            message) := by
        simp [Place.drawn, ht]
      rw [hdrawn, Template.cut_append (colon_not_mem_number _)]
      rfl
    have hnumber := congrArg (fun t => (Text.cut ':' t).map Prod.fst) h
    simp only [hcut, Option.some.injEq] at hnumber
    exact Nat.succ_injective (Text.decimal_injective (List.append_cancel_left hnumber))
  · have hrow {q : Place} {k : Nat} (hq : q.IsAt t k) : q.row = 0 := by
      have hline := hq.line
      rw [Text.lines_of_not_mem ht] at hline
      obtain ⟨hlt, -⟩ := List.getElem?_eq_some_iff.1 hline
      simpa using hlt
    rw [hrow hq, hrow hq']

theorem position_eq_of_drawn_eq {q q' : Place} {m n : Nat} {message : Text} (hq : q.IsAt t m)
    (hq' : q'.IsAt t n) (h : q.drawn t message = q'.drawn t message) : m = n := by
  have hrow := row_eq_of_drawn_eq hq hq' h
  have hline : q.line = q'.line := by
    have hlines := hq.line
    rw [hrow, hq'.line] at hlines
    exact (Option.some.inj hlines).symm
  have hcolumn : q.column = q'.column := by
    have hlength := congrArg List.length h
    simp only [Place.drawn, hrow, hline, List.length_append, List.length_cons,
      List.length_replicate] at hlength
    omega
  rw [← hq.position, ← hq'.position, hrow, hline, hcolumn]

/-- The excerpt of a malformed template shows the position of the defect: the line that it is in, by
its number when there are several, and the column. Positions that differ are shown differently. -/
theorem excerpt_shows_position (fault : Fault) (t : Text) :
    (∀ offset, t.IsBoundary (min offset t.size) → ∃ q : Place, q.IsAt t (min offset t.size) ∧
      excerpt ⟨fault, t, offset⟩ = q.drawn t fault.message) ∧
    (∀ m n, t.IsBoundary m → t.IsBoundary n → m ≠ n →
      excerpt ⟨fault, t, m⟩ ≠ excerpt ⟨fault, t, n⟩) ∧
    ∀ offset, t.size ≤ offset → excerpt ⟨fault, t, offset⟩ = excerpt ⟨fault, t, t.size⟩ := by
  refine ⟨exists_place fault, fun m n hm hn hne heq => hne ?_, fun offset h => ?_⟩
  · obtain ⟨q, hq, hdrawn⟩ := exists_place fault m (by rwa [Nat.min_eq_left hm.le])
    obtain ⟨q', hq', hdrawn'⟩ := exists_place fault n (by rwa [Nat.min_eq_left hn.le])
    rw [Nat.min_eq_left hm.le] at hq
    rw [Nat.min_eq_left hn.le] at hq'
    exact position_eq_of_drawn_eq hq hq' (hdrawn.symm.trans (heq.trans hdrawn'))
  · simp only [excerpt, Text.splitBytes_of_size_le h, Text.splitBytes_of_size_le (Nat.le_refl _)]

def accentedLines : Text := "a\nñé [x\n"

theorem excerpt_shows_position_accented :
    accentedLines.IsBoundary 1 ∧ accentedLines.IsBoundary 7 ∧
    (∃ q : Place, q.IsAt accentedLines 7 ∧ excerpt ⟨.missingColon, accentedLines, 7⟩ =
      q.drawn accentedLines Fault.missingColon.message) ∧
    excerpt ⟨.missingColon, accentedLines, 1⟩ ≠ excerpt ⟨.missingColon, accentedLines, 7⟩ ∧
    excerpt ⟨.missingColon, accentedLines, 40⟩ = excerpt ⟨.missingColon, accentedLines, 10⟩ := by
  obtain ⟨hplace, hne, hend⟩ := excerpt_shows_position .missingColon accentedLines
  have hfirst : accentedLines.IsBoundary 1 := ⟨"a", by decide, by decide⟩
  have hbracket : accentedLines.IsBoundary 7 := ⟨"a\nñé ", by decide, by decide⟩
  have hsize : accentedLines.size = 10 := by decide
  have hplace := hplace 7
  rw [hsize, Nat.min_eq_left (by decide)] at hplace
  rw [hsize] at hend
  exact ⟨hfirst, hbracket, hplace hbracket, hne 1 7 hfirst hbracket (by decide),
    hend 40 (by decide)⟩

example : excerpt ⟨.missingColon, "a\nñé [x\n", 7⟩ =
    ("line 2:\nñé [x\n   ^ color span is missing ':' between color and text" : Text) := by
  decide +kernel

end Malformed

end Listing
