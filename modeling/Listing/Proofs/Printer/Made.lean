import Listing.Printer
import Listing.Proofs.Outcome

namespace Listing

open Template

variable {R I : Type}

namespace Printer

variable {pr : Printer} {kind : ListingKind} {v : Vocabulary (Scope R I)} {format? : Option Text}

inductive Refuses (pr : Printer) (kind : ListingKind) (v : Vocabulary (Scope R I)) (template : Text)
    (record : R) : ListingError → Prop
  | render {e : RenderError} (h : v.renderWhole template record = .error e) :
    Refuses pr kind v template record (.ofRender kind e)
  | paint {tagged : Text} {e : UnknownColor} (h : v.renderWhole template record = .ok tagged)
    (hpaint : Listing.paint pr.settings.colors pr.mode tagged = .error e) :
    Refuses pr kind v template record (.paint (.unknownColor e))

inductive Fails (pr : Printer) (kind : ListingKind) (v : Vocabulary (Scope R I))
    (format? : Option Text) (records : List R) : ListingError → Prop
  | format {format : Text} {m : Malformed} (hformat : format? = some format)
    (h : validate (readNewlines format) = .error m) :
    Fails pr kind v format? records (.format ⟨kind, m⟩)
  | record {template : Text} {before after : List R} {r : R} {e : ListingError}
    (htemplate : pr.templateFor kind format? = .ok template)
    (hrecords : records = before ++ r :: after)
    (hbefore : ∀ x ∈ before, ∀ d, ¬pr.Refuses kind v template x d)
    (h : pr.Refuses kind v template r e) : Fails pr kind v format? records e

theorem line_eq_error_iff {template : Text} {r : R} {e : ListingError} :
    pr.line kind v template r = .error e ↔ pr.Refuses kind v template r e := by
  constructor
  · intro h
    rcases bind_eq_error h with hrender | ⟨tagged, htagged, hpaint⟩
    · obtain ⟨d, hd, rfl⟩ := mapError_eq_error_iff.1 hrender
      exact .render hd
    · obtain ⟨d, hd, rfl⟩ := mapError_eq_error_iff.1 hpaint
      exact .paint (mapError_eq_ok htagged) hd
  · rintro (⟨hrender⟩ | ⟨htagged, hpaint⟩)
    · rw [line, hrender]
      rfl
    · rw [line, htagged]
      exact mapError_eq_error_iff.2 ⟨_, hpaint, rfl⟩

theorem exists_line_iff {template : Text} {r : R} :
    (∃ line, pr.line kind v template r = .ok line) ↔ ∀ e, ¬pr.Refuses kind v template r e := by
  simp only [← line_eq_error_iff]
  cases pr.line kind v template r with
  | ok line => simp
  | error e => simp

theorem templateFor_eq_error_iff {e : ListingError} :
    pr.templateFor kind format? = .error e ↔ ∃ format m, format? = some format ∧
      validate (readNewlines format) = .error m ∧ e = .format ⟨kind, m⟩ := by
  cases format? with
  | none => exact ⟨nofun, nofun⟩
  | some format =>
    refine check_bind_eq_error_iff.trans ?_
    rw [checkTemplate, mapError_mapError, mapError_eq_error_iff]
    exact ⟨fun ⟨m, hm, he⟩ => ⟨format, m, rfl, hm, he⟩,
      fun ⟨_, m, hformat, hm, he⟩ => ⟨m, Option.some.inj hformat ▸ hm, he⟩⟩

theorem lines_eq_ok_iff {records : List R} {lines : List Text} :
    pr.lines kind v format? records = .ok lines ↔ ∃ template,
      pr.templateFor kind format? = .ok template ∧
        List.Forall₂ (fun r line => pr.line kind v template r = .ok line) records lines := by
  simp only [← mapM_eq_ok_iff]
  constructor
  · exact bind_eq_ok
  · rintro ⟨template, htemplate, h⟩
    rw [Printer.lines, htemplate]
    exact h

theorem lines_eq_error_iff {records : List R} {e : ListingError} :
    pr.lines kind v format? records = .error e ↔ pr.Fails kind v format? records e := by
  constructor
  · intro h
    rcases bind_eq_error h with hrefused | ⟨template, htemplate, hrecords⟩
    · obtain ⟨format, m, hformat, hm, rfl⟩ := templateFor_eq_error_iff.1 hrefused
      exact .format hformat hm
    · obtain ⟨before, r, after, hsplit, hbefore, hr⟩ := mapM_eq_error_iff.1 hrecords
      exact .record htemplate hsplit (fun x hx => exists_line_iff.1 (hbefore x hx))
        (line_eq_error_iff.1 hr)
  · rintro (⟨hformat, hm⟩ | ⟨htemplate, hsplit, hbefore, hr⟩)
    · rw [lines, templateFor_eq_error_iff.2 ⟨_, _, hformat, hm, rfl⟩]
      rfl
    · rw [lines, htemplate]
      exact mapM_eq_error_iff.2
        ⟨_, _, _, hsplit, fun x hx => exists_line_iff.2 (hbefore x hx), line_eq_error_iff.2 hr⟩

theorem lines_append (records others : List R) :
    pr.lines kind v format? (records ++ others) = do
      let lines ← pr.lines kind v format? records
      let more ← pr.lines kind v format? others
      return lines ++ more := by
  simp only [Printer.lines]
  cases pr.templateFor kind format? with
  | error e => rfl
  | ok template => exact List.mapM_append

end Printer

end Listing
