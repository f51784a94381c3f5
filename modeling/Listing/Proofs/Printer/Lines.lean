import Listing.Printer
import Listing.Proofs.Render.Printed
import Listing.Proofs.Vocabulary.Colors

namespace Listing

variable {R I : Type}

namespace Printer

def withMode (pr : Printer) (mode : PaintMode) : Printer := { pr with mode }

/-- What the modes give for a listing that has these lines without colors: no mode refuses it, and
when its tags are kept, painting them later gives the lines. -/
structure Shows (p : Palette) (listing : PaintMode → Except ListingError (List Text))
    (lines : List Text) : Prop where
  plain : listing .plain = .ok lines
  colored : ∃ out, listing .colored = .ok out
  tagged : ∃ out, listing .tagged = .ok out ∧
    List.Forall₂ (fun t line => paint p .plain t = .ok line) out lines

variable {pr : Printer} {kind : ListingKind} {v : Vocabulary (Scope R I)} {d : Draft}

theorem templateFor_print (hd : d.WellFormed) (hslash : '\\' ∉ d.print) (pr : Printer)
    (kind : ListingKind) : pr.templateFor kind (some d.print) = .ok d.print := by
  rw [templateFor, readNewlines_of_not_infix (not_infix_of_not_mem hslash), checkTemplate,
    hd.validate_print]
  rfl

theorem exists_tagged (kind : ListingKind) (hd : d.WellFormed) {r : R} {text : Text}
    (h : d.PrintsAs pr.settings.colors (v.answers d.print.length (.ofRecord r)) text) :
    ∃ t, Prints pr.settings.colors t text ∧ ∀ mode,
      (pr.withMode mode).line kind v d.print r =
        (paint pr.settings.colors mode t).mapError (.paint ∘ .unknownColor) := by
  obtain ⟨t, ht, hprints⟩ := h
  have hwhole : v.renderWhole d.print r = .ok t := hd.render_print ht
  refine ⟨t, hprints, fun mode => ?_⟩
  rw [line, hwhole]
  rfl

theorem shows_of_printsAs (hd : d.WellFormed) (hslash : '\\' ∉ d.print) {records : List R}
    {text : R → Text} (h : ∀ r ∈ records,
      d.PrintsAs pr.settings.colors (v.answers d.print.length (.ofRecord r)) (text r)) :
    Shows pr.settings.colors
      (fun mode => (pr.withMode mode).lines kind v (some d.print) records)
      (records.map text) := by
  have hlines (mode : PaintMode) : (pr.withMode mode).lines kind v (some d.print) records =
      records.mapM ((pr.withMode mode).line kind v d.print) := by
    rw [lines, templateFor_print hd hslash]
    rfl
  have hline (r : R) (hr : r ∈ records) := exists_tagged kind hd (h r hr)
  constructor
  · rw [hlines]
    apply mapM_eq_ok
    intro r hr
    obtain ⟨t, ht, hline⟩ := hline r hr
    rw [hline, ht.paint_plain]
    rfl
  · rw [hlines]
    apply exists_mapM_ok
    intro r hr
    obtain ⟨t, ht, hline⟩ := hline r hr
    obtain ⟨out, hout⟩ := ht.exists_paint .colored
    refine ⟨out, ?_⟩
    rw [hline, hout]
    rfl
  · rw [hlines]
    apply exists_mapM
    intro r hr
    obtain ⟨t, ht, hline⟩ := hline r hr
    refine ⟨t, ?_, ht.paint_plain⟩
    rw [hline, ht.paint_tagged]
    rfl

theorem shows_auto (kind : ListingKind) (v : Vocabulary (Scope R I)) (name : Text) {format : Text}
    (hname : Draft.IsName name)
    (hformat : (Draft.auto name .done).print = format) (hslash : '\\' ∉ format)
    {records : List R} {text : R → Text}
    (hcolors : ∀ r ∈ records, v.colors.All (AnswersColor pr.settings.colors (.ofRecord r)))
    (hvalues : ∀ r ∈ records, ∃ t, v.resolver.value name (.ofRecord r) = .ok (some t) ∧
      Prints pr.settings.colors t (text r)) :
    Shows pr.settings.colors (fun mode => (pr.withMode mode).lines kind v (some format) records)
      (records.map text) := by
  subst hformat
  apply shows_of_printsAs (.auto hname .done) hslash
  intro r hr
  obtain ⟨t, ht, hprints⟩ := hvalues r hr
  rw [← List.append_nil (text r)]
  exact .auto (color_answers (hcolors r hr) _) ht hprints .done

/-- What painting makes of a value that is put into a span as it is. -/
def paintSpan (pr : Printer) (color value : Text) : Except ListingError Text :=
  (paint pr.settings.colors pr.mode ('[' :: color ++ ':' :: value ++ [']'])).mapError
    (.paint ∘ .unknownColor)

theorem lines_auto (pr : Printer) (kind : ListingKind) (v : Vocabulary (Scope R I)) (name : Text)
    (color : R → Option Text) (value : R → Text) {format : Text} (hname : Draft.IsName name)
    (hformat : (Draft.auto name .done).print = format) (hslash : '\\' ∉ format)
    (hcolor : ∀ r, v.resolver.color name (.ofRecord r) = .ok (color r))
    (hvalue : ∀ r, v.resolver.value name (.ofRecord r) = .ok (some (value r)))
    (records : List R) :
    pr.lines kind v (some format) records =
      records.mapM fun r => pr.paintSpan ((color r).getD []) (value r) := by
  subst hformat
  have hd : (Draft.auto name .done).WellFormed := .auto hname .done
  have hline : pr.line kind v (Draft.auto name .done).print =
      fun r => pr.paintSpan ((color r).getD []) (value r) := by
    funext r
    have hwhole : v.renderWhole (Draft.auto name .done).print r = .ok _ :=
      hd.render_print (Draft.eval_auto hname (hcolor r) (hvalue r))
    rw [line, hwhole]
    rfl
  rw [lines, templateFor_print hd hslash, ← hline]
  rfl

end Printer

end Listing
