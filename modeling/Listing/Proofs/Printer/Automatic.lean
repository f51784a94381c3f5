import Mathlib
import Listing.Proofs.Printer.Lines
import Listing.Proofs.Vocabulary.IssueMeaning

namespace Listing.Printer

variable {pr : Printer}

theorem shows_issues_auto (hs : pr.settings.Reachable) {issues : List Issue} (name : Text)
    {format : Text} (hname : Draft.IsName name) (hformat : (Draft.auto name .done).print = format)
    (hslash : '\\' ∉ format) {text : Issue → Text} (hvalues : ∀ i ∈ issues, ∃ t,
      (Issue.vocabulary (Issue.columns issues pr.viewer) pr.matcher).resolver.value name
        (.ofRecord i) = .ok (some t) ∧ Prints pr.settings.colors t (text i)) :
    Shows pr.settings.colors (fun mode => (pr.withMode mode).listIssues issues (some format))
      (issues.map text) := by
  have hcolors (i : Issue) (_ : i ∈ issues) := Issue.colors_vocabulary hs.sound
    (Issue.columns issues pr.viewer) pr.matcher (.ofRecord i)
  have h := shows_auto .issues (Issue.vocabulary (Issue.columns issues pr.viewer) pr.matcher)
    name hname hformat hslash hcolors hvalues
  exact h

theorem shows_labels_auto (hs : pr.settings.Reachable) {labels : List Label} (name : Text)
    {format : Text} (hname : Draft.IsName name) (hformat : (Draft.auto name .done).print = format)
    (hslash : '\\' ∉ format) {text : Label → Text} (hvalues : ∀ l ∈ labels, ∃ t,
      (Label.vocabulary (Label.columns labels) pr.matcher).resolver.value name (.ofRecord l) =
        .ok (some t) ∧ Prints pr.settings.colors t (text l)) :
    Shows pr.settings.colors (fun mode => (pr.withMode mode).listLabels labels (some format))
      (labels.map text) := by
  have hcolors (l : Label) (_ : l ∈ labels) := Label.colors_vocabulary hs.sound
    (Label.columns labels) pr.matcher (.ofRecord l)
  have h := shows_auto .labels (Label.vocabulary (Label.columns labels) pr.matcher) name hname
    hformat hslash hcolors hvalues
  exact h

def entryDraft : Draft := .auto "key" (.literal "=" (.value "value" .done))

theorem wellFormed_entryDraft : entryDraft.WellFormed :=
  .auto (by decide) (.literal (by simp [Template.delimiters]) (.value (by decide) rfl .done))

theorem printsAs_entryDraft {p : Palette} (hp : Settings.Sound p) (depth : Nat) (e : ConfigEntry) :
    entryDraft.PrintsAs p (ConfigEntry.vocabulary.answers depth (.ofRecord e))
      (e.key ++ '=' :: e.value) := by
  have hcolors := color_answers (ConfigEntry.colors_vocabulary hp (.ofRecord e)) depth
  refine .auto hcolors rfl (.escaped e.key) ?_
  have hequals : Unmarked ['='] := by decide
  exact .literal hequals (.value_done rfl (.escaped e.value))

/-- The columns of names are padded before the names are escaped. -/
theorem shows_names_and_entries (hs : pr.settings.Reachable) (labels : List Label)
    (entries : List ConfigEntry) :
    (Shows pr.settings.colors
      (fun mode => (pr.withMode mode).listLabels labels (some "[auto:$name]"))
      (labels.map Label.name)) ∧
    (Shows pr.settings.colors
      (fun mode => (pr.withMode mode).listLabels labels (some "[auto:$+name]"))
      (labels.map fun l =>
        Text.alignRight (widest (fun l => Text.width l.name) labels) l.name)) ∧
    (Shows pr.settings.colors
      (fun mode => (pr.withMode mode).listLabels labels (some "[auto:$name+]"))
      (labels.map fun l =>
        Text.alignLeft (widest (fun l => Text.width l.name) labels) l.name)) ∧
    Shows pr.settings.colors
      (fun mode => (pr.withMode mode).listConfig entries (some "[auto:$key]=$value"))
      (entries.map fun e => e.key ++ '=' :: e.value) := by
  refine ⟨?_, ?_, ?_, ?_⟩
  · apply shows_labels_auto hs "name" (by decide) rfl (by decide)
    exact fun l _ => ⟨_, rfl, .escaped l.name⟩
  · apply shows_labels_auto hs "+name" (by decide) rfl (by decide)
    exact fun l _ => ⟨_, rfl, .escaped _⟩
  · apply shows_labels_auto hs "name+" (by decide) rfl (by decide)
    exact fun l _ => ⟨_, rfl, .escaped _⟩
  · exact shows_of_printsAs wellFormed_entryDraft (by decide)
      fun e _ => printsAs_entryDraft hs.sound _ e

def aliased : Printer :=
  ⟨⟨.standard, Settings.standard.colors.insert "Red" "Blue"⟩, .plain, TerminalColor.nearest, none⟩

def markedLabels : List Label := [⟨"[x:y]", "ff0000"⟩, ⟨"a\\", "none"⟩]

theorem reachable_aliased : aliased.settings.Reachable := by
  have hset : Settings.standard.setColor "Red" "Blue" = .ok aliased.settings := rfl
  exact .setColor .standard hset

theorem shows_names_and_entries_aliased :
    aliased.settings.Reachable ∧
    (aliased.withMode .plain).listLabels markedLabels (some "[auto:$name]") =
      .ok ["[x:y]", "a\\"] ∧
    (aliased.withMode .plain).listLabels markedLabels (some "[auto:$+name]") =
      .ok ["[x:y]", "   a\\"] ∧
    (aliased.withMode .plain).listLabels markedLabels (some "[auto:$name+]") =
      .ok ["[x:y]", "a\\   "] ∧
    (∃ out, (aliased.withMode .colored).listConfig [⟨"a]b", "[v"⟩] (some "[auto:$key]=$value") =
      .ok out) ∧
    (aliased.withMode .plain).listConfig [⟨"a]b", "[v"⟩] (some "[auto:$key]=$value") =
      .ok ["a]b=[v"] := by
  obtain ⟨hname, hright, hleft, hentries⟩ :=
    shows_names_and_entries reachable_aliased markedLabels [⟨"a]b", "[v"⟩]
  have hwidth : widest (fun l => Text.width l.name) markedLabels = 5 := by cbv
  refine ⟨reachable_aliased, hname.plain, ?_, ?_, hentries.colored, hentries.plain⟩
  · rw [hright.plain, hwidth]
    cbv
  · rw [hleft.plain, hwidth]
    cbv

/-- Logins and colors without marks are seen as they are. -/
theorem shows_unmarked_logins_and_colors (hs : pr.settings.Reachable) {issues : List Issue}
    (hissues : ∀ i ∈ issues, Unmarked i.assigneeText) {labels : List Label}
    (hlabels : ∀ l ∈ labels, Unmarked l.color) :
    (Shows pr.settings.colors
      (fun mode => (pr.withMode mode).listIssues issues (some "[auto:$assignee]"))
      (issues.map Issue.assigneeText)) ∧
    (Shows pr.settings.colors
      (fun mode => (pr.withMode mode).listIssues issues (some "[auto:$+assignee]"))
      (issues.map fun i =>
        Text.alignRight (widest Text.width (issues.filterMap Issue.assignee)) i.assigneeText)) ∧
    (Shows pr.settings.colors
      (fun mode => (pr.withMode mode).listIssues issues (some "[auto:$assignee+]"))
      (issues.map fun i =>
        Text.alignLeft (widest Text.width (issues.filterMap Issue.assignee)) i.assigneeText)) ∧
    Shows pr.settings.colors
      (fun mode => (pr.withMode mode).listLabels labels (some "[auto:$color]"))
      (labels.map Label.color) := by
  refine ⟨?_, ?_, ?_, ?_⟩
  · apply shows_issues_auto hs "assignee" (by decide) rfl (by decide)
    exact fun i hi => ⟨_, rfl, .literal (hissues i hi)⟩
  · apply shows_issues_auto hs "+assignee" (by decide) rfl (by decide)
    exact fun i hi => ⟨_, rfl, .literal ((hissues i hi).alignRight _)⟩
  · apply shows_issues_auto hs "assignee+" (by decide) rfl (by decide)
    exact fun i hi => ⟨_, rfl, .literal ((hissues i hi).alignLeft _)⟩
  · apply shows_labels_auto hs "color" (by decide) rfl (by decide)
    exact fun l hl => ⟨_, rfl, .literal (hlabels l hl)⟩

def unmarkedIssues : List Issue :=
  [⟨1, "t", none, some "ana", .opened, []⟩, ⟨2, "u", none, some "bo:b", .closed, []⟩,
    ⟨3, "v", none, none, .opened, []⟩]

def unmarkedLabels : List Label := [⟨"[x]", "ff0000"⟩, ⟨"y", "#none"⟩]

theorem shows_unmarked_logins_and_colors_aliased :
    aliased.settings.Reachable ∧ (∀ i ∈ unmarkedIssues, Unmarked i.assigneeText) ∧
    (∀ l ∈ unmarkedLabels, Unmarked l.color) ∧
    (aliased.withMode .plain).listIssues unmarkedIssues (some "[auto:$+assignee]") =
      .ok [" ana", "bo:b", "    "] ∧
    (aliased.withMode .plain).listLabels unmarkedLabels (some "[auto:$color]") =
      .ok ["ff0000", "#none"] := by
  have hissues : ∀ i ∈ unmarkedIssues, Unmarked i.assigneeText := by decide
  have hlabels : ∀ l ∈ unmarkedLabels, Unmarked l.color := by decide
  obtain ⟨-, hright, -, hcolor⟩ :=
    shows_unmarked_logins_and_colors reachable_aliased hissues hlabels
  refine ⟨reachable_aliased, hissues, hlabels, ?_, hcolor.plain⟩
  rw [hright.plain]
  cbv

theorem listIssues_assignee (pr : Printer) (issues : List Issue) :
    pr.listIssues issues (some "[auto:$assignee]") =
      issues.mapM fun i => pr.paintSpan (i.assigneeColor pr.viewer) i.assigneeText := by
  have h := lines_auto pr .issues (Issue.vocabulary (Issue.columns issues pr.viewer) pr.matcher)
    "assignee" (fun i => some (i.assigneeColor pr.viewer)) Issue.assigneeText (by decide) rfl
    (by decide) (fun _ => rfl) (fun _ => rfl) issues
  exact h

theorem listLabels_color (pr : Printer) (labels : List Label) :
    pr.listLabels labels (some "[auto:$color]") =
      labels.mapM fun l => pr.paintSpan ((labelColor pr.matcher l.color).getD []) l.color := by
  have h := lines_auto pr .labels (Label.vocabulary (Label.columns labels) pr.matcher) "color"
    (fun l => labelColor pr.matcher l.color) Label.color (by decide) rfl (by decide)
    (fun _ => rfl) (fun _ => rfl) labels
  exact h

/-- A backslash at the end of a value takes the end of the span away: the backslash is lost, and the
start of the span is seen. -/
theorem paintSpan_backslash (pr : Printer) (color t : Text)
    (hcolor : IsSpanName color) (ht : Unmarked t) :
    (pr.withMode .plain).paintSpan color (t ++ ['\\']) =
      .ok ('[' :: color ++ ':' :: t ++ [']']) := by
  have hescape : escape (t ++ [']']) = t ++ ['\\', ']'] := by
    rw [escape, List.flatMap_append, ← escape, Prints.escape_eq_self ht]
    rfl
  have htext : '[' :: color ++ ':' :: (t ++ ['\\']) ++ [']'] =
      '[' :: color ++ ':' :: escape (t ++ [']']) := by
    rw [hescape]
    simp
  have hplain : paint pr.settings.colors .plain ('[' :: color ++ ':' :: (t ++ ['\\']) ++ [']']) =
      .ok ('[' :: color ++ ':' :: t ++ [']']) := by
    rw [htext, paint_unclosed hcolor]
    simp
  exact congrArg (Except.mapError _) hplain

/-- A login that ends in a backslash, one that looks like a span, and the color of a label. -/
theorem marked_logins_and_colors_lost :
    aliased.settings.Reachable ∧
    (aliased.withMode .plain).listIssues [⟨1, "t", none, some "ana\\", .opened, []⟩]
      (some "[auto:$assignee]") = .ok ["[Issue_User:ana]"] ∧
    (aliased.withMode .plain).listIssues [⟨1, "t", none, some "[x:y]", .opened, []⟩]
      (some "[auto:$assignee]") = .error (.paint (.unknownColor ⟨"x", 12⟩)) ∧
    (aliased.withMode .plain).listLabels [⟨"l", "\\"⟩] (some "[auto:$color]") = .ok ["[:]"] := by
  have hlogin : (aliased.withMode .plain).paintSpan "Issue_User" ("ana" ++ ['\\']) =
      .ok ('[' :: "Issue_User" ++ ':' :: "ana" ++ [']']) :=
    paintSpan_backslash aliased "Issue_User" "ana" (by decide) (by decide)
  have hcolor : (aliased.withMode .plain).paintSpan [] ['\\'] = .ok ['[', ':', ']'] :=
    paintSpan_backslash aliased [] [] nofun nofun
  have hspan : (aliased.withMode .plain).paintSpan "Issue_User" "[x:y]" =
      .error (.paint (.unknownColor ⟨"x", 12⟩)) := by
    have htokens : Token.ofText "[Issue_User:[x:y]]" =
        [.opening "Issue_User" 0, .opening "x" 12, .glyph 'y', .closing, .closing] := by cbv
    have htext : '[' :: "Issue_User" ++ ':' :: "[x:y]" ++ [']'] = "[Issue_User:[x:y]]" := rfl
    rw [paintSpan, htext, paint, Stroke.ofText, htokens]
    rfl
  have hself (login : Text) : Issue.assigneeColor (aliased.withMode .plain).viewer
      ⟨1, "t", none, some login, .opened, []⟩ = "Issue_User" := rfl
  have hnone : labelColor (aliased.withMode .plain).matcher "\\" = none := rfl
  refine ⟨reachable_aliased, ?_, ?_, ?_⟩
  · have hvalue : ("ana\\" : Text) = "ana" ++ ['\\'] := rfl
    rw [listIssues_assignee, List.mapM_cons, hself, Issue.assigneeText, Option.getD_some, hvalue,
      hlogin]
    rfl
  · rw [listIssues_assignee, List.mapM_cons, hself, Issue.assigneeText, Option.getD_some, hspan]
    rfl
  · have hvalue : ("\\" : Text) = ['\\'] := rfl
    rw [listLabels_color, List.mapM_cons, hnone, hvalue, Option.getD_none, hcolor]
    rfl

end Listing.Printer
