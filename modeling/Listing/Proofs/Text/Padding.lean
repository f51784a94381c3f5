import Mathlib
import Listing.Text.Width

namespace Listing.Text

variable {read t rest : Text} {c : Char} {n : Nat}

theorem spaces_succ_append (n : Nat) (t : Text) :
    spaces (n + 1) ++ t = ' ' :: (spaces n ++ t) :=
  rfl

theorem spaces_append_cons (n : Nat) (t : Text) :
    spaces n ++ ' ' :: t = ' ' :: (spaces n ++ t) := by
  induction n with
  | zero => rfl
  | succ n ih => exact congrArg (' ' :: ·) ih

theorem extend_space (s : Start) : extend ' ' s = (1, {}) := by
  have hvariations : hasVariations ' ' = false := by decide
  simp [extend, hvariations]

theorem measure_cons (c : Char) (t : Text) :
    measure (c :: t) =
      ((measure t).1 + (extend c (measure t).2).1, (extend c (measure t).2).2) :=
  rfl

theorem measure_spaces_append (n : Nat) (t : Text) :
    (measure (spaces n ++ t)).1 = n + (measure t).1 := by
  induction n with
  | zero => simp [spaces]
  | succ n ih =>
    rw [spaces_succ_append, measure_cons, extend_space, ih]
    push_cast
    omega

theorem measure_append_spaces (t : Text) (n : Nat) :
    measure (t ++ spaces n) = ((measure t).1 + n, (measure t).2) := by
  induction t with
  | nil =>
    induction n with
    | zero => rfl
    | succ n ih =>
      have hspaces : [] ++ spaces (n + 1) = ' ' :: ([] ++ spaces n) := rfl
      rw [hspaces, measure_cons, extend_space, ih]
      simp [measure]
  | cons c t ih =>
    rw [List.cons_append, measure_cons, ih, measure_cons]
    exact Prod.ext (Int.add_right_comm _ _ _) rfl

theorem lineWidth_spaces_append (n : Nat) (t : Text) :
    lineWidth (spaces n ++ t) = n + lineWidth t := by
  have hmeasure := measure_nonneg t
  rw [lineWidth, measure_spaces_append, lineWidth]
  omega

theorem lineWidth_append_spaces (t : Text) (n : Nat) :
    lineWidth (t ++ spaces n) = lineWidth t + n := by
  have hmeasure := measure_nonneg t
  rw [lineWidth, measure_append_spaces, lineWidth]
  dsimp only
  omega

theorem next_space (p : Progress) : p.next ' ' = none := by
  cases p <;> rfl

theorem afterControl_append_spaces (p : Progress) (t : Text) (n : Nat) :
    afterControl p (t ++ spaces n) = (afterControl p t).map (· ++ spaces n) := by
  induction t generalizing p with
  | nil =>
    cases n with
    | zero => rfl
    | succ n =>
      change afterControl p (' ' :: spaces n) = none
      rw [afterControl, next_space]
  | cons c t ih =>
    rw [List.cons_append, afterControl, afterControl]
    cases p.next c with
    | none => rfl
    | some q =>
      simp only [ih]
      cases afterControl q t <;> cases q.isComplete <;> rfl

theorem suffix_of_afterControl {p : Progress} (h : afterControl p t = some rest) : rest <:+ t := by
  induction t generalizing p with
  | nil => cases h
  | cons c t ih =>
    rw [afterControl] at h
    split at h
    · cases h
    · next q _ =>
      rcases Option.or_eq_some_iff.1 h with hlonger | ⟨-, hhere⟩
      · exact (ih hlonger).trans (List.suffix_cons c t)
      · split at hhere
        · exact Option.some.inj hhere ▸ List.suffix_cons c t
        · cases hhere

theorem afterSequence_eq_none (h : isIntroducer c = false) (t : Text) :
    afterSequence (c :: t) = none := by
  have hescape : c ≠ '\x1b' := by
    rintro rfl
    cases h
  cases t with
  | nil => rfl
  | cons d t => simp [afterSequence, h, hescape]

theorem afterSequence_eq_afterControl (hc : c ≠ '\x1b') (t : Text) :
    afterSequence (c :: t) = if isIntroducer c then afterControl .introduced t else none := by
  cases t with
  | nil => simp [afterSequence, afterControl]
  | cons d t => simp [afterSequence, hc]

theorem afterSequence_append_spaces (h : '\x1b' ∉ t) (n : Nat) :
    afterSequence (t ++ spaces n) = (afterSequence t).map (· ++ spaces n) := by
  cases t with
  | nil =>
    cases n with
    | zero => rfl
    | succ n => exact afterSequence_eq_none (by decide) (spaces n)
  | cons c t =>
    have hc : c ≠ '\x1b' := fun hc => h (hc ▸ List.mem_cons_self)
    rw [List.cons_append, afterSequence_eq_afterControl hc, afterSequence_eq_afterControl hc,
      afterControl_append_spaces]
    split <;> rfl

theorem suffix_of_afterSequence (h : '\x1b' ∉ t) (hrest : afterSequence t = some rest) :
    rest <:+ t := by
  cases t with
  | nil => cases hrest
  | cons c t =>
    have hc : c ≠ '\x1b' := fun hc => h (hc ▸ List.mem_cons_self)
    rw [afterSequence_eq_afterControl hc] at hrest
    split at hrest
    · exact (suffix_of_afterControl hrest).trans (List.suffix_cons c t)
    · cases hrest

theorem runsFrom_eq_cons (h : afterSequence t = some rest) (read : Text) :
    runsFrom read t = read.reverse :: runsFrom [] rest := by
  rw [runsFrom]
  split
  · next _ hrest => rw [Option.some.inj (h.symm.trans hrest)]
  · next hrest => cases h.symm.trans hrest

theorem runsFrom_nil (read : Text) : runsFrom read [] = [read.reverse] := by
  rw [runsFrom]
  rfl

theorem runsFrom_cons (h : afterSequence (c :: t) = none) (read : Text) :
    runsFrom read (c :: t) = runsFrom (c :: read) t := by
  rw [runsFrom]
  split
  · next _ hrest => cases h.symm.trans hrest
  · rfl

theorem exists_runsFrom (t : Text) :
    ∃ run runs, ∀ read, runsFrom read t = (read.reverse ++ run) :: runs := by
  induction t with
  | nil => exact ⟨[], [], fun read => by rw [runsFrom_nil, List.append_nil]⟩
  | cons c t ih =>
    cases hrest : afterSequence (c :: t) with
    | some rest =>
      exact ⟨[], _, fun read => by rw [runsFrom_eq_cons hrest, List.append_nil]⟩
    | none =>
      obtain ⟨run, runs, h⟩ := ih
      refine ⟨c :: run, runs, fun read => ?_⟩
      rw [runsFrom_cons hrest, h, List.reverse_cons, List.append_assoc]
      rfl

theorem runsFrom_spaces_append (read : Text) (n : Nat) (t : Text) :
    runsFrom read (spaces n ++ t) = runsFrom (spaces n ++ read) t := by
  induction n generalizing read with
  | zero => rfl
  | succ n ih =>
    have hspace := afterSequence_eq_none (c := ' ') (by decide) (spaces n ++ t)
    rw [spaces_succ_append, runsFrom_cons hspace, ih, spaces_append_cons]
    rfl

/-- Spaces behind a text belong to its last run. -/
theorem exists_runsFrom_append_spaces (h : '\x1b' ∉ t) (read : Text) (n : Nat) :
    ∃ runs run, runsFrom read t = runs ++ [run] ∧
      runsFrom read (t ++ spaces n) = runs ++ [run ++ spaces n] := by
  fun_induction runsFrom read t with
  | case1 read t rest hrest ih =>
    -- No sequence goes on into the spaces, so that this one ends where it did.
    have hmem : '\x1b' ∉ rest := fun hmem => h ((suffix_of_afterSequence h hrest).subset hmem)
    have hspaces : afterSequence (t ++ spaces n) = some (rest ++ spaces n) := by
      rw [afterSequence_append_spaces h, hrest]
      rfl
    obtain ⟨runs, run, hruns, hpadded⟩ := ih hmem
    refine ⟨read.reverse :: runs, run, ?_, ?_⟩
    · rw [hruns]
      rfl
    · rw [runsFrom_eq_cons hspaces, hpadded]
      rfl
  | case2 read _ =>
    refine ⟨[], read.reverse, rfl, ?_⟩
    have hspaces := runsFrom_spaces_append read n []
    rw [List.append_nil] at hspaces
    rw [List.nil_append, hspaces, runsFrom_nil, List.reverse_append, spaces,
      List.reverse_replicate]
    rfl
  | case3 read c t hrest ih =>
    have hspaces : afterSequence (c :: (t ++ spaces n)) = none := by
      rw [← List.cons_append, afterSequence_append_spaces h, hrest]
      rfl
    obtain ⟨runs, run, hruns, hpadded⟩ := ih fun hmem => h (List.mem_cons_of_mem c hmem)
    exact ⟨runs, run, hruns, by rw [List.cons_append, runsFrom_cons hspaces, hpadded]⟩

theorem width_eq_sum (t : Text) : width t = ((runs t).map lineWidth).sum := by
  rw [width, List.sum, List.foldr_map]

theorem width_spaces_append (n : Nat) (t : Text) : width (spaces n ++ t) = n + width t := by
  obtain ⟨run, runs, hruns⟩ := exists_runsFrom t
  have hspaces : (spaces n).reverse = spaces n := List.reverse_replicate
  have hpadded : runsFrom [] (spaces n ++ t) = (spaces n ++ run) :: runs := by
    rw [runsFrom_spaces_append, List.append_nil, hruns, hspaces]
  have htext : runsFrom [] t = run :: runs := hruns []
  rw [width_eq_sum, width_eq_sum, Text.runs, Text.runs, hpadded, htext, List.map_cons,
    List.map_cons, List.sum_cons, List.sum_cons, lineWidth_spaces_append, Nat.add_assoc]

theorem width_append_spaces (h : '\x1b' ∉ t) (n : Nat) : width (t ++ spaces n) = width t + n := by
  obtain ⟨runs, run, hruns, hpadded⟩ := exists_runsFrom_append_spaces h [] n
  rw [width_eq_sum, width_eq_sum, Text.runs, Text.runs, hpadded, hruns]
  simp [lineWidth_append_spaces, Nat.add_assoc]

def Uncontrolled (t : Text) : Prop := ∀ c ∈ t, isIntroducer c = false

instance (t : Text) : Decidable (Uncontrolled t) := List.decidableBAll _ t

theorem Uncontrolled.runsFrom_eq (h : Uncontrolled t) (read : Text) :
    runsFrom read t = [read.reverse ++ t] := by
  induction t generalizing read with
  | nil => rw [runsFrom_nil, List.append_nil]
  | cons c t ih =>
    obtain ⟨hc, ht⟩ := List.forall_mem_cons.1 h
    rw [runsFrom_cons (afterSequence_eq_none hc t), ih ht, List.reverse_cons, List.append_assoc]
    rfl

theorem Uncontrolled.width_eq (h : Uncontrolled t) : width t = lineWidth t := by
  rw [width_eq_sum, runs, h.runsFrom_eq]
  exact Nat.add_zero _

theorem width_nil : width [] = 0 := Uncontrolled.width_eq nofun

def RightAligned (n : Nat) (t out : Text) : Prop := width out = n ∧ ∃ k, out = spaces k ++ t

def LeftAligned (n : Nat) (t out : Text) : Prop := width out = n ∧ ∃ k, out = t ++ spaces k

theorem rightAligned_alignRight (h : width t ≤ n) : RightAligned n t (alignRight n t) := by
  refine ⟨?_, n - width t, rfl⟩
  rw [alignRight, width_spaces_append]
  omega

theorem leftAligned_alignLeft (ht : '\x1b' ∉ t) (h : width t ≤ n) :
    LeftAligned n t (alignLeft n t) := by
  refine ⟨?_, n - width t, rfl⟩
  rw [alignLeft, width_append_spaces ht]
  omega

theorem alignRight_width (t : Text) : alignRight (width t) t = t := by
  rw [alignRight, Nat.sub_self]
  rfl

theorem alignLeft_width (t : Text) : alignLeft (width t) t = t := by
  rw [alignLeft, Nat.sub_self]
  exact List.append_nil t

theorem ne_of_isDigit {d : Char} (hc : c.isDigit = true) (hd : d.isDigit = false) : c ≠ d := by
  rintro rfl
  cases hd.symm.trans hc

theorem extend_digit (h : c.isDigit = true) : extend c {} = (1, {}) := by
  have hnewline : c ≠ '\n' := ne_of_isDigit h rfl
  have hbasic : c.toNat ≤ 0xA0 := by
    have hrange : 48 ≤ c.toNat ∧ c.toNat ≤ 57 := by
      simpa [Char.isDigit, UInt32.le_iff_toNat_le] using h
    omega
  simp [extend, hnewline, hbasic]

theorem measure_digits (h : ∀ c ∈ t, c.isDigit = true) : measure t = ((t.length : Int), {}) := by
  induction t with
  | nil => rfl
  | cons c t ih =>
    obtain ⟨hc, ht⟩ := List.forall_mem_cons.1 h
    rw [measure_cons, ih ht, extend_digit hc]
    simp

theorem isDigit_of_mem_decimal (h : c ∈ decimal n) : c.isDigit = true :=
  Nat.isDigit_of_mem_toDigits (by decide) (by decide) h

theorem uncontrolled_decimal (n : Nat) : Uncontrolled (decimal n) := by
  intro c hc
  have hescape : c ≠ '\x1b' := ne_of_isDigit (isDigit_of_mem_decimal hc) rfl
  have hcontrol : c ≠ '\u009b' := ne_of_isDigit (isDigit_of_mem_decimal hc) rfl
  simp [isIntroducer, hescape, hcontrol]

theorem width_decimal (n : Nat) : width (decimal n) = (decimal n).length := by
  have hmeasure := measure_digits fun c (hc : c ∈ decimal n) => isDigit_of_mem_decimal hc
  rw [(uncontrolled_decimal n).width_eq, lineWidth, hmeasure]
  rfl

end Listing.Text
