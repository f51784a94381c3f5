import Mathlib
import Listing.Proofs.Color.Palette
import Listing.Proofs.Settings.Step

namespace Listing.Settings

/-- Settings are the standard ones or read from a file, and then changed step by step. -/
inductive Reachable : Settings → Prop
  | standard : Reachable standard
  | ofText {t : Text} {s : Settings} (h : ofText t = .ok s) : Reachable s
  | setFormat {s s' : Settings} (hs : Reachable s) {kind : ListingKind} {format : Text}
      (h : s.setFormat kind format = .ok s') : Reachable s'
  | setColor {s s' : Settings} (hs : Reachable s) {name target : Text}
      (h : s.setColor name target = .ok s') : Reachable s'

/-- Palettes that resolve what the vocabularies need. -/
structure Sound (p : Palette) : Prop where
  check : p.check = .ok ()
  standard : ∀ x ∈ standardColors.map Prod.fst, (p.get? x).isSome

/-- Settings in which everything is in order: also the formats, which are well-formed and have no
newlines left to read. -/
structure Checked (s : Settings) : Prop where
  colors : Sound s.colors
  valid : ∀ kind, Template.validate (s.format kind) = .ok ()
  newlines : ∀ kind, ¬ ['\\', 'n'] <:+: s.format kind

theorem checked_standard : Checked standard where
  colors := ⟨rfl, by decide⟩
  valid kind := by
    change Template.validate (Formats.standard.get kind) = .ok ()
    cases kind <;> cbv
  newlines kind := by
    have hslash : '\\' ∉ Formats.standard.get kind := by cases kind <;> decide
    exact not_infix_of_not_mem hslash

theorem checked_ofOverrides {o : Overrides} {s : Settings} (h : ofOverrides o = .ok s) :
    Checked s := by
  obtain ⟨hcheck, rfl⟩ := ofOverrides_eq_ok_iff.1 h
  obtain ⟨hcolors, hvalid⟩ := check_eq_ok_iff.1 hcheck
  refine ⟨⟨hcolors, fun x hx => ?_⟩, hvalid, fun kind => ?_⟩
  · exact Dict.isSome_get?_union (checked_standard.colors.standard x hx) _
  · rw [format_overridden]
    cases o.format? kind with
    | none => exact checked_standard.newlines kind
    | some format => exact not_infix_readNewlines format

theorem checked_ofText {t : Text} {s : Settings} (h : ofText t = .ok s) : Checked s := by
  obtain ⟨o, -, ho⟩ := ofText_eq_ok_iff.1 h
  exact checked_ofOverrides ho

theorem Checked.setFormat {s s' : Settings} (hs : Checked s) {kind : ListingKind} {format : Text}
    (h : s.setFormat kind format = .ok s') : Checked s' := by
  obtain ⟨hvalid, rfl⟩ := setFormat_eq_ok_iff.1 h
  refine ⟨hs.colors, fun kind' => ?_, fun kind' => ?_⟩
  · rw [Settings.format, Formats.get_set]
    split
    · exact hvalid
    · exact hs.valid kind'
  · rw [Settings.format, Formats.get_set]
    split
    · exact not_infix_readNewlines format
    · exact hs.newlines kind'

theorem Checked.setColor {s s' : Settings} (hs : Checked s) {name target : Text}
    (h : s.setColor name target = .ok s') : Checked s' := by
  obtain ⟨hcheck, rfl⟩ := setColor_eq_ok_iff.1 h
  refine ⟨⟨hcheck, fun x hx => ?_⟩, hs.valid, hs.newlines⟩
  exact Dict.isSome_get?_insert (hs.colors.standard x hx) name target

theorem Reachable.checked {s : Settings} (h : s.Reachable) : Checked s := by
  induction h with
  | standard => exact checked_standard
  | ofText h => exact checked_ofText h
  | setFormat _ h ih => exact ih.setFormat h
  | setColor _ h ih => exact ih.setColor h

theorem Reachable.sound {s : Settings} (h : s.Reachable) : Sound s.colors := h.checked.colors

theorem Sound.isSome_color? {p : Palette} (hp : Sound p) {x : Text}
    (hx : x ∈ standardColors.map Prod.fst) : (p.color? x).isSome :=
  Palette.isSome_color?_of_check hp.check (hp.standard x hx)

end Listing.Settings
