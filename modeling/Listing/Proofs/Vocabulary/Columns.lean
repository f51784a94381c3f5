import Listing.Proofs.Paint.Prints
import Listing.Proofs.Text.Padding
import Listing.Vocabulary

namespace Listing

open Text

variable {α : Type}

theorem widest_cons (measure : α → Nat) (x : α) (xs : List α) :
    widest measure (x :: xs) = max (measure x) (widest measure xs) :=
  rfl

theorem le_widest (measure : α → Nat) {xs : List α} {x : α} (h : x ∈ xs) :
    measure x ≤ widest measure xs := by
  induction xs with
  | nil => cases h
  | cons y xs ih =>
    rw [widest_cons]
    rcases List.mem_cons.1 h with rfl | hx
    · exact Nat.le_max_left _ _
    · exact Nat.le_trans (ih hx) (Nat.le_max_right _ _)

theorem exists_eq_widest (measure : α → Nat) {xs : List α} (h : xs ≠ []) :
    ∃ x ∈ xs, measure x = widest measure xs := by
  induction xs with
  | nil => exact absurd rfl h
  | cons x xs ih =>
    rw [widest_cons]
    rcases Nat.le_total (widest measure xs) (measure x) with hle | hle
    · exact ⟨x, List.mem_cons_self, (Nat.max_eq_left hle).symm⟩
    · rcases eq_or_ne xs [] with rfl | hne
      · exact ⟨x, List.mem_cons_self, (Nat.max_eq_left (Nat.zero_le _)).symm⟩
      · obtain ⟨y, hy, heq⟩ := ih hne
        exact ⟨y, List.mem_cons_of_mem x hy, heq.trans (Nat.max_eq_right hle).symm⟩

/-- A column of the texts of some records, which comes padded on either side. Every record has a
place in it, and the records that count set its width: one of them needs no padding. -/
structure IsColumn (width : Nat) (records : List α) (counts : α → Prop) (text : α → Text)
    (right left : α → Text → Prop) : Prop where
  right_aligned : ∀ r ∈ records, ∃ out, right r out ∧ RightAligned width (text r) out
  left_aligned : ∀ r ∈ records, ∃ out, left r out ∧ LeftAligned width (text r) out
  tight : (∃ r ∈ records, counts r) →
    ∃ r ∈ records, counts r ∧ right r (text r) ∧ left r (text r)

theorem IsColumn.of_aligned {width : Nat} {records : List α} {counts : α → Prop} {text : α → Text}
    {right left : α → Text → Prop} (hescape : ∀ r ∈ records, '\x1b' ∉ text r)
    (hfits : ∀ r ∈ records, (text r).width ≤ width)
    (htight : (∃ r ∈ records, counts r) → ∃ r ∈ records, counts r ∧ (text r).width = width)
    (hright : ∀ r, right r (alignRight width (text r)))
    (hleft : ∀ r, left r (alignLeft width (text r))) :
    IsColumn width records counts text right left where
  right_aligned r hr := ⟨_, hright r, rightAligned_alignRight (hfits r hr)⟩
  left_aligned r hr := ⟨_, hleft r, leftAligned_alignLeft (hescape r hr) (hfits r hr)⟩
  tight h := by
    obtain ⟨r, hr, hcounts, rfl⟩ := htight h
    have hr₁ := hright r
    have hr₂ := hleft r
    rw [alignRight_width] at hr₁
    rw [alignLeft_width] at hr₂
    exact ⟨r, hr, hcounts, hr₁, hr₂⟩

namespace Issue

def IsAnswer (columns : IssueColumns) (matcher : Matcher) (name : Text) (i : Issue) (out : Text) :
    Prop :=
  ∀ item, (vocabulary columns matcher).resolver.value name ⟨i, item⟩ = .ok (some out)

theorem isColumn_number (issues : List Issue) (viewer : Option Text) (matcher : Matcher) :
    IsColumn (columns issues viewer).numberWidth issues (fun _ => True) numberText
      (IsAnswer (columns issues viewer) matcher "+number")
      (IsAnswer (columns issues viewer) matcher "number+") := by
  have hwidth (i : Issue) : i.numberText.width = i.numberText.length := width_decimal _
  apply IsColumn.of_aligned
  case hescape => exact fun i _ hmem => ne_of_isDigit (isDigit_of_mem_decimal hmem) rfl rfl
  case hfits => exact fun i hi => hwidth i ▸ le_widest (fun i => i.numberText.length) hi
  case htight =>
    rintro ⟨i, hi, -⟩
    obtain ⟨j, hj, heq⟩ := exists_eq_widest (fun i => i.numberText.length) (List.ne_nil_of_mem hi)
    exact ⟨j, hj, trivial, (hwidth j).trans heq⟩
  case hright => exact fun i item => rfl
  case hleft => exact fun i item => rfl

theorem isColumn_assignee {issues : List Issue} (h : ∀ i ∈ issues, '\x1b' ∉ i.assigneeText)
    (viewer : Option Text) (matcher : Matcher) :
    IsColumn (columns issues viewer).assigneeWidth issues (fun i => i.assignee.isSome) assigneeText
      (IsAnswer (columns issues viewer) matcher "+assignee")
      (IsAnswer (columns issues viewer) matcher "assignee+") := by
  have hmem {i : Issue} {login : Text} (hi : i ∈ issues) (hlogin : i.assignee = some login) :
      login ∈ issues.filterMap assignee := List.mem_filterMap.2 ⟨i, hi, hlogin⟩
  apply IsColumn.of_aligned h
  case hfits =>
    intro i hi
    rw [assigneeText]
    cases hlogin : i.assignee with
    | none =>
      rw [Option.getD_none, width_nil]
      exact Nat.zero_le _
    | some login => exact le_widest width (hmem hi hlogin)
  case htight =>
    rintro ⟨i, hi, hsome⟩
    obtain ⟨login, hlogin⟩ := Option.isSome_iff_exists.1 hsome
    have hlogins : issues.filterMap assignee ≠ [] := List.ne_nil_of_mem (hmem hi hlogin)
    obtain ⟨widestLogin, hwidest, heq⟩ := exists_eq_widest width hlogins
    obtain ⟨j, hj, hassignee⟩ := List.mem_filterMap.1 hwidest
    refine ⟨j, hj, by rw [hassignee]; rfl, ?_⟩
    rw [assigneeText, hassignee]
    exact heq
  case hright => exact fun i item => rfl
  case hleft => exact fun i item => rfl

end Issue

namespace Label

def IsSeen (columns : LabelColumns) (matcher : Matcher) (name : Text) (l : Label) (out : Text) :
    Prop :=
  ∃ answer, (∀ item, (vocabulary columns matcher).resolver.value name ⟨l, item⟩ =
    .ok (some answer)) ∧ ∀ p, paint p .plain answer = .ok out

theorem isColumn_name {labels : List Label} (h : ∀ l ∈ labels, '\x1b' ∉ l.name)
    (matcher : Matcher) :
    IsColumn (columns labels).nameWidth labels (fun _ => True) name
      (IsSeen (columns labels) matcher "+name") (IsSeen (columns labels) matcher "name+") := by
  apply IsColumn.of_aligned h
  case hfits => exact fun l hl => le_widest (fun l => l.name.width) hl
  case htight =>
    rintro ⟨l, hl, -⟩
    obtain ⟨j, hj, heq⟩ := exists_eq_widest (fun l => l.name.width) (List.ne_nil_of_mem hl)
    exact ⟨j, hj, trivial, heq⟩
  case hright => exact fun l => ⟨_, fun item => rfl, fun p => (Prints.escaped _).paint_plain⟩
  case hleft => exact fun l => ⟨_, fun item => rfl, fun p => (Prints.escaped _).paint_plain⟩

end Label

/-- Padded columns line up, and waste nothing. -/
theorem columns_line_up {issues : List Issue} (hissues : ∀ i ∈ issues, '\x1b' ∉ i.assigneeText)
    {labels : List Label} (hlabels : ∀ l ∈ labels, '\x1b' ∉ l.name) (viewer : Option Text)
    (matcher : Matcher) :
    IsColumn (Issue.columns issues viewer).numberWidth issues (fun _ => True) Issue.numberText
      (Issue.IsAnswer (Issue.columns issues viewer) matcher "+number")
      (Issue.IsAnswer (Issue.columns issues viewer) matcher "number+") ∧
    IsColumn (Issue.columns issues viewer).assigneeWidth issues (fun i => i.assignee.isSome)
      Issue.assigneeText (Issue.IsAnswer (Issue.columns issues viewer) matcher "+assignee")
      (Issue.IsAnswer (Issue.columns issues viewer) matcher "assignee+") ∧
    IsColumn (Label.columns labels).nameWidth labels (fun _ => True) Label.name
      (Label.IsSeen (Label.columns labels) matcher "+name")
      (Label.IsSeen (Label.columns labels) matcher "name+") := by
  refine ⟨?numbers, ?assignees, ?names⟩
  case numbers => exact Issue.isColumn_number issues viewer matcher
  case assignees => exact Issue.isColumn_assignee hissues viewer matcher
  case names => exact Label.isColumn_name hlabels matcher

def wideIssues : List Issue :=
  [{ number := 7, title := [], assignee := some "日本" }, { number := 1024, title := [] },
    { number := 99, title := [], assignee := some "e\u0301" }]

def wideLabels : List Label := [⟨"バグ", "f00"⟩, ⟨"[x]", []⟩]

theorem columns_line_up_wide :
    (∀ i ∈ wideIssues, '\x1b' ∉ i.assigneeText) ∧ (∀ l ∈ wideLabels, '\x1b' ∉ l.name) ∧
    (∃ out, Issue.IsAnswer (Issue.columns wideIssues none) TerminalColor.nearest "+number"
      { number := 7, title := [], assignee := some "日本" } out ∧ RightAligned 4 "7" out) ∧
    (∃ out, Issue.IsAnswer (Issue.columns wideIssues none) TerminalColor.nearest "assignee+"
      { number := 1024, title := [] } out ∧ LeftAligned 4 [] out) ∧
    (∃ i ∈ wideIssues, i.assignee.isSome ∧ Issue.IsAnswer (Issue.columns wideIssues none)
      TerminalColor.nearest "assignee+" i i.assigneeText) ∧
    ∃ out, Label.IsSeen (Label.columns wideLabels) TerminalColor.nearest "+name" ⟨"[x]", []⟩ out ∧
      RightAligned 4 "[x]" out := by
  have hissues : ∀ i ∈ wideIssues, '\x1b' ∉ i.assigneeText := by decide
  have hlabels : ∀ l ∈ wideLabels, '\x1b' ∉ l.name := by decide
  obtain ⟨hnumbers, hassignees, hnames⟩ :=
    columns_line_up hissues hlabels none TerminalColor.nearest
  have hwidth {t : Text} {n : Nat} (ht : Uncontrolled t) (hn : lineWidth t = n) : width t = n :=
    ht.width_eq.trans hn
  have hlogins : (Issue.columns wideIssues none).assigneeWidth = 4 := by
    have hfirst : width "日本" = 4 := hwidth (by decide) (by decide +kernel)
    have hlast : width "e\u0301" = 1 := hwidth (by decide) (by decide +kernel)
    change max (width "日本") (max (width "e\u0301") 0) = 4
    rw [hfirst, hlast]
    rfl
  have hnameWidth : (Label.columns wideLabels).nameWidth = 4 := by
    have hfirst : width "バグ" = 4 := hwidth (by decide) (by decide +kernel)
    have hlast : width "[x]" = 3 := hwidth (by decide) (by decide +kernel)
    change max (width "バグ") (max (width "[x]") 0) = 4
    rw [hfirst, hlast]
    rfl
  refine ⟨hissues, hlabels, ?number, ?unassigned, ?widest, ?name⟩
  case number => exact hnumbers.right_aligned _ List.mem_cons_self
  case unassigned =>
    have hmem : { number := 1024, title := [] } ∈ wideIssues :=
      List.mem_cons_of_mem _ List.mem_cons_self
    have h := hassignees.left_aligned _ hmem
    rwa [hlogins] at h
  case widest =>
    obtain ⟨i, hi, hsome, -, hleft⟩ := hassignees.tight ⟨_, List.mem_cons_self, rfl⟩
    exact ⟨i, hi, hsome, hleft⟩
  case name =>
    have hmem : ⟨"[x]", []⟩ ∈ wideLabels := List.mem_cons_of_mem _ List.mem_cons_self
    have h := hnames.right_aligned _ hmem
    rwa [hnameWidth] at h

end Listing
