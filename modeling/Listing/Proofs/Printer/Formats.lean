import Listing.Proofs.Printer.Made
import Listing.Proofs.Vocabulary.Failing

namespace Listing

open Settings

variable {R I : Type}

def RenderError.IsUnresolved (e : RenderError) : Prop := ∃ r, e = .unresolved r

def ListingError.NotFormat (e : ListingError) : Prop := ∀ m, e ≠ .format m

namespace Printer

def withSettings (pr : Printer) (settings : Settings) : Printer := { pr with settings }

/-- A listing that takes a format as the settings do, and fails for the form of a format only where
they would refuse it. -/
structure TakesFormat (pr : Printer) (kind : ListingKind)
    (listing : Printer → Option Text → Except ListingError (List Text)) : Prop where
  accepted : ∀ format s, pr.settings.setFormat kind format = .ok s →
    listing pr (some format) = listing (pr.withSettings s) none
  refused : ∀ format e, pr.settings.setFormat kind format = .error e →
    ∃ m, e = .format ⟨kind, m⟩ ∧ listing pr (some format) = .error (.format ⟨kind, m⟩)
  only : ∀ format? e, listing pr format? = .error (.format e) →
    ∃ format, format? = some format ∧ pr.settings.setFormat kind format = .error (.format e)

variable {pr : Printer} {kind : ListingKind} {v : Vocabulary (Scope R I)} {format : Text}

theorem templateFor_of_setFormat {s : Settings} (h : pr.settings.setFormat kind format = .ok s) :
    pr.templateFor kind (some format) = .ok (s.format kind) := by
  obtain ⟨hvalid, rfl⟩ := setFormat_eq_ok_iff.1 h
  refine check_bind_eq_ok_iff.2 ⟨?_, ?_⟩
  · rw [checkTemplate_eq_ok_iff.2 hvalid]
    rfl
  · rw [Settings.format, Formats.get_set, if_pos rfl]

theorem templateFor_of_refused {m : Malformed}
    (h : pr.settings.setFormat kind format = .error (.format ⟨kind, m⟩)) :
    pr.templateFor kind (some format) = .error (.format ⟨kind, m⟩) := by
  obtain ⟨m', hm', heq⟩ := setFormat_eq_error_iff.1 h
  cases heq
  exact templateFor_eq_error_iff.2 ⟨format, m, rfl, hm', rfl⟩

theorem templateFor_cases (hs : pr.settings.Reachable) (kind : ListingKind)
    (format? : Option Text) :
    (∃ t, pr.templateFor kind format? = .ok t ∧ Template.validate t = .ok ()) ∨
      ∃ format m, format? = some format ∧
        pr.settings.setFormat kind format = .error (.format ⟨kind, m⟩) := by
  cases format? with
  | none => exact .inl ⟨_, rfl, hs.checked.valid kind⟩
  | some format =>
    cases h : pr.settings.setFormat kind format with
    | ok s =>
      have hs' : s.Reachable := hs.setFormat h
      exact .inl ⟨_, templateFor_of_setFormat h, hs'.checked.valid kind⟩
    | error e =>
      obtain ⟨m, -, rfl⟩ := setFormat_eq_error_iff.1 h
      exact .inr ⟨format, m, rfl, h⟩

theorem lines_of_setFormat {s : Settings} (h : pr.settings.setFormat kind format = .ok s)
    (records : List R) :
    pr.lines kind v (some format) records = (pr.withSettings s).lines kind v none records := by
  have htemplate := templateFor_of_setFormat h
  obtain ⟨-, rfl⟩ := setFormat_eq_ok_iff.1 h
  rw [lines, htemplate]
  rfl

theorem lines_of_refused {m : Malformed}
    (h : pr.settings.setFormat kind format = .error (.format ⟨kind, m⟩)) (records : List R) :
    pr.lines kind v (some format) records = .error (.format ⟨kind, m⟩) := by
  rw [lines, templateFor_of_refused h]
  rfl

theorem failsOnly_line (hv : v.FailsOnly RenderError.IsUnresolved fun _ => True) {t : Text}
    (ht : Template.validate t = .ok ()) (record : R) :
    FailsOnly ListingError.NotFormat (pr.line kind v t record) := by
  have hrender : FailsOnly RenderError.IsUnresolved (v.renderWhole t record) :=
    hv.render ht (Nat.lt_succ_self _) trivial
  have htagged : FailsOnly ListingError.NotFormat
      ((v.renderWhole t record).mapError (ListingError.ofRender kind)) := by
    refine .mapError (hrender.imp ?_)
    rintro _ ⟨r, rfl⟩ m heq
    cases heq
  apply htagged.bind
  intro tagged
  exact .mapError fun _ _ _ => nofun

theorem takesFormat_lines (kind : ListingKind) (hs : pr.settings.Reachable)
    (hv : v.FailsOnly RenderError.IsUnresolved fun _ => True) (records : List R) :
    pr.TakesFormat kind fun pr format? => pr.lines kind v format? records where
  accepted format s h := lines_of_setFormat h records
  refused format e h := by
    obtain ⟨m, -, rfl⟩ := setFormat_eq_error_iff.1 h
    exact ⟨m, rfl, lines_of_refused h records⟩
  only format? e h := by
    rcases templateFor_cases hs kind format? with ⟨t, htemplate, ht⟩ | ⟨format, m, rfl, hrefused⟩
    · have hlines : FailsOnly ListingError.NotFormat (pr.lines kind v format? records) := by
        rw [lines, htemplate]
        exact .mapM fun record _ => failsOnly_line hv ht record
      exact absurd rfl (hlines _ h e)
    · rw [lines_of_refused hrefused] at h
      cases h
      exact ⟨format, rfl, hrefused⟩

theorem takesFormat (hs : pr.settings.Reachable) :
    (∀ issues, pr.TakesFormat .issues fun pr => pr.listIssues issues) ∧
    (∀ labels, pr.TakesFormat .labels fun pr => pr.listLabels labels) ∧
    ∀ entries, pr.TakesFormat .config fun pr => pr.listConfig entries := by
  refine ⟨fun issues => ?_, fun labels => ?_, fun entries => ?_⟩
  · have hv := Issue.failsOnly_vocabulary (E := RenderError.IsUnresolved)
      (I := fun _ => True) (Issue.columns issues pr.viewer) pr.matcher (fun _ _ _ => trivial)
      fun _ _ _ => ⟨_, rfl⟩
    have h := takesFormat_lines .issues hs hv issues
    exact ⟨h.accepted, h.refused, h.only⟩
  · have hv := Label.failsOnly_vocabulary (E := RenderError.IsUnresolved)
      (I := fun _ => True) (Label.columns labels) pr.matcher
    have h := takesFormat_lines .labels hs hv labels
    exact ⟨h.accepted, h.refused, h.only⟩
  · exact takesFormat_lines .config hs ConfigEntry.failsOnly_vocabulary entries

def aligned : Settings := ⟨Formats.standard.set .labels "[auto:$name+]|\n", standard.colors⟩

theorem reachable_aligned : aligned.Reachable := by
  have hvalid : Template.validate (readNewlines "[auto:$name+]|\\n") = .ok () := by cbv
  have hformat : Settings.standard.setFormat .labels "[auto:$name+]|\\n" = .ok aligned :=
    setFormat_eq_ok_iff.2 ⟨hvalid, rfl⟩
  exact .setFormat .standard hformat

def alignedPrinter : Printer := ⟨aligned, .tagged, TerminalColor.nearest, some "ana"⟩

theorem takesFormat_aligned :
    alignedPrinter.settings.Reachable ∧
    alignedPrinter.listLabels [⟨"x]", "ff0000"⟩] (some "$color\\n$name") =
      (alignedPrinter.withSettings
        ⟨aligned.formats.set .labels "$color\n$name", aligned.colors⟩).listLabels
          [⟨"x]", "ff0000"⟩] none ∧
    alignedPrinter.listIssues [] (some "a\\n?open\x7b[Red:x\x7d") =
      .error (.format ⟨.issues, ⟨.unclosed '[' ']', "a\n?open\x7b[Red:x\x7d", 8⟩⟩) ∧
    ∀ e, alignedPrinter.listConfig [⟨"k", "v"⟩] none ≠ .error (.format e) := by
  have hs : alignedPrinter.settings.Reachable := reachable_aligned
  obtain ⟨hissues, hlabels, hconfig⟩ := takesFormat hs
  have hvalid : Template.validate (readNewlines "$color\\n$name") = .ok () := by cbv
  have haccepted : aligned.setFormat .labels "$color\\n$name" = .ok _ :=
    setFormat_eq_ok_iff.2 ⟨hvalid, rfl⟩
  have hbroken : Template.validate (readNewlines "a\\n?open\x7b[Red:x\x7d") =
      .error ⟨.unclosed '[' ']', "a\n?open\x7b[Red:x\x7d", 8⟩ := by cbv
  have hrefused : aligned.setFormat .issues "a\\n?open\x7b[Red:x\x7d" = .error _ :=
    setFormat_eq_error_iff.2 ⟨_, hbroken, rfl⟩
  refine ⟨hs, (hlabels _).accepted _ _ haccepted, ?_, fun e h => ?_⟩
  · obtain ⟨m, hm, hlisting⟩ := (hissues []).refused _ _ hrefused
    cases hm
    exact hlisting
  · obtain ⟨format, hnone, -⟩ := (hconfig _).only _ _ h
    cases hnone

end Printer

end Listing
