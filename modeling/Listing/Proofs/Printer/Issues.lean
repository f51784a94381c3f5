import Mathlib
import Listing.Proofs.Printer.Lines
import Listing.Proofs.Vocabulary.IssueMeaning

namespace Listing.Printer

/-- A format that is written down is printed as what it means. Titles, bodies and labels may be any
texts; logins are put in as they are, so they must be free of brackets and backslashes. -/
theorem listIssues_print {pr : Printer} (hs : pr.settings.Reachable) {f : IssueFormat}
    (hf : f.WellFormed pr.settings.colors false) {issues : List Issue}
    (hissues : ∀ i ∈ issues, Unmarked i.assigneeText) :
    (pr.withMode .plain).listIssues issues (some f.print) =
      .ok (issues.map fun i => f.plain (Issue.columns issues pr.viewer) i none) := by
  have hprints : ∀ i ∈ issues, f.draft.PrintsAs pr.settings.colors
      (Issue.answers (Issue.columns issues pr.viewer) pr.matcher f.print.length i none)
      (f.plain (Issue.columns issues pr.viewer) i none) :=
    fun i hi => IssueFormat.printsAs hs.sound (hissues i hi) hf f.nesting_le_length nofun
  exact (shows_of_printsAs hf.draft (IssueFormat.not_mem_print hf) hprints).plain

def detailed : IssueFormat :=
  .span "auto" (.value .numberRight .done) (.literal " "
    (.span "Issue_Par" (.value .assigneeLeft .done) (.literal ": " (.value .title (.literal " "
      (.condition .described (.literal "- " (.value .description (.literal " " .done)))
        (.labels (.span "auto" (.value .label .done) .done) (.ending ", " " and ") .done)))))))

def detailedText : Text :=
  ("[auto:$+number] [Issue_Par:$assignee+]: $title ?description\x7b- $description \x7d" : Text) ++
    ("@labels\x7b[auto:$label]@, @ and \x7d" : Text)

theorem print_detailed : detailed.print = detailedText := by decide +kernel

def markedIssues : List Issue :=
  [⟨7, "[Red:x]", some "b\\]", some "ana", .opened,
      [⟨"a]", "ff0000"⟩, ⟨"[b:", "none"⟩, ⟨"c", []⟩]⟩,
    ⟨12, "y", none, none, .closed, []⟩]

def viewed : Printer := ⟨.standard, .plain, TerminalColor.nearest, some "ana"⟩

theorem listIssues_detailed :
    viewed.settings.Reachable ∧ detailed.WellFormed viewed.settings.colors false ∧
    (∀ i ∈ markedIssues, Unmarked i.assigneeText) ∧
    (viewed.withMode .plain).listIssues markedIssues (some detailedText) =
      .ok [" 7 ana: [Red:x] - b\\] a], [b: and c", "12    : y "] := by
  have hreachable : viewed.settings.Reachable := .standard
  have hformat : detailed.WellFormed viewed.settings.colors false := by decide
  have hissues : ∀ i ∈ markedIssues, Unmarked i.assigneeText := by decide
  have hplain : (markedIssues.map fun i =>
      detailed.plain (Issue.columns markedIssues viewed.viewer) i none) =
      [" 7 ana: [Red:x] - b\\] a], [b: and c", "12    : y "] := by cbv
  have h := listIssues_print hreachable hformat hissues
  rw [hplain, print_detailed] at h
  exact ⟨hreachable, hformat, hissues, h⟩

end Listing.Printer
