import Mathlib
import Listing.Proofs.Paint.Written
import Listing.Proofs.Printer.Made

namespace Listing

namespace Printer

theorem writesWhole_write {made : Except ListingError (List Text)} {fails : ListingError → Prop}
    (h : ∀ e, made = .error e ↔ fails e) :
    WritesWhole made fails (.paint .full) fun s => write s made := by
  apply WritesWhole.of_putLines h
  · rintro e s rfl
    rfl
  · rintro lines s rfl
    rw [write]
    rcases s.putLines lines with ⟨s', _ | _⟩ <;> rfl

/-- Every listing is printed as a whole up to the room of the sink, and so is a single line. -/
theorem printing_is_whole :
    (∀ (pr : Printer) (format? : Option Text),
      (∀ issues, WritesWhole (pr.listIssues issues format?)
        (pr.Fails .issues (Issue.vocabulary (Issue.columns issues pr.viewer) pr.matcher) format?
          issues)
        (.paint .full) fun s => pr.printIssues s issues format?) ∧
      (∀ labels, WritesWhole (pr.listLabels labels format?)
        (pr.Fails .labels (Label.vocabulary (Label.columns labels) pr.matcher) format? labels)
        (.paint .full) fun s => pr.printLabels s labels format?) ∧
      ∀ entries, WritesWhole (pr.listConfig entries format?)
        (pr.Fails .config ConfigEntry.vocabulary format? entries)
        (.paint .full) fun s => pr.printConfig s entries format?) ∧
    ∀ (p : Palette) (m : PaintMode) (t : Text),
      WritesWhole ((fun line => [line]) <$> (paint p m t).mapError .unknownColor)
        (fun e => ∃ d, paint p m t = .error d ∧ e = .unknownColor d) .full
        fun s => printLine p m s t := by
  refine ⟨fun pr format? => ⟨fun issues => ?_, fun labels => ?_, fun entries => ?_⟩,
    writesWhole_printLine⟩
  · exact writesWhole_write fun _ => lines_eq_error_iff
  · exact writesWhole_write fun _ => lines_eq_error_iff
  · exact writesWhole_write fun _ => lines_eq_error_iff

def colorless : Printer := ⟨⟨.standard, .ofList []⟩, .plain, TerminalColor.nearest, none⟩

def accented : List ConfigEntry := [⟨"k", "é"⟩, ⟨"l", []⟩]

def halfOpen : List Issue :=
  [⟨7, "é", none, none, .closed, []⟩, ⟨12, "y", none, none, .opened, []⟩]

def openFormat : Text := "?open\x7b[Nope:$title]\x7d$number"

theorem fails_halfOpen :
    colorless.Fails .issues
      (Issue.vocabulary (Issue.columns halfOpen colorless.viewer) colorless.matcher)
      (some openFormat) halfOpen (.paint (.unknownColor ⟨"Nope", 0⟩)) := by
  have htemplate : colorless.templateFor .issues (some openFormat) = .ok openFormat := by cbv
  have hclosed : colorless.line .issues
      (Issue.vocabulary (Issue.columns halfOpen colorless.viewer) colorless.matcher) openFormat
      ⟨7, "é", none, none, .closed, []⟩ = .ok "7" := by cbv
  have hopen :
      (Issue.vocabulary (Issue.columns halfOpen colorless.viewer) colorless.matcher).renderWhole
        openFormat ⟨12, "y", none, none, .opened, []⟩ = .ok "[Nope:y]12" := by cbv
  have hpaint : paint colorless.settings.colors colorless.mode "[Nope:y]12" =
      .error ⟨"Nope", 0⟩ := by decide +kernel
  have hsplit : halfOpen = halfOpen.take 1 ++ halfOpen[1] :: [] := rfl
  refine .record htemplate hsplit ?_ (.paint hopen hpaint)
  exact List.forall_mem_singleton.2 (exists_line_iff.1 ⟨_, hclosed⟩)

theorem printing_is_whole_cut :
    (colorless.printConfig ⟨[33], some 3⟩ accented (some "$key $value")).1.written =
      [33, 0x6b, 0x20, 0xc3] ∧
    (colorless.printConfig ⟨[], some 7⟩ accented (some "$key $value")).2 = .error (.paint .full) ∧
    (colorless.printConfig ⟨[], some 8⟩ accented (some "$key $value")).2 = .ok () ∧
    colorless.printIssues ⟨[], some 9⟩ halfOpen (some openFormat) =
      (⟨[], some 9⟩, .error (.paint (.unknownColor ⟨"Nope", 0⟩))) ∧
    (printLine colorless.settings.colors .plain ⟨[], some 1⟩ "é").1.written = [0xc3] := by
  obtain ⟨hprinter, hprintLine⟩ := printing_is_whole
  have hconfig := (hprinter colorless (some "$key $value")).2.2 accented
  have hmade : colorless.listConfig accented (some "$key $value") = .ok ["k é", "l "] := by cbv
  have hbytes : (endLines ["k é", "l "]).utf8 = [0x6b, 0x20, 0xc3, 0xa9, 10, 0x6c, 0x20, 10] := by
    decide
  have hpaint : (fun line => [line]) <$>
      (paint colorless.settings.colors .plain "é").mapError OutputError.unknownColor =
        .ok ["é"] := by cbv
  refine ⟨?_, ?_, ?_, ?_, ?_⟩
  · rw [hconfig.written _ _ _ hmade, hbytes]
    rfl
  · exact hconfig.eq_full _ _ _ hmade (by decide)
  · exact (hconfig.eq_ok_iff _ _ _ hmade).2 (by decide)
  · exact ((hprinter colorless (some openFormat)).1 halfOpen).untouched _ _ fails_halfOpen
  · rw [(hprintLine _ _ _).written _ _ _ hpaint]
    decide

end Printer

end Listing
