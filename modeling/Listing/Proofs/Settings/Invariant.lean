import Listing.Proofs.Vocabulary.Colors

namespace Listing.Settings

/-- Settings in which every name that is needed stands for a color, and every format is as it was
checked. -/
structure InOrder (s : Settings) : Prop where
  check : s.colors.check = .ok ()
  valid : ∀ kind, Template.validate (s.format kind) = .ok ()
  newlines : ∀ kind, ¬ ['\\', 'n'] <:+: s.format kind
  standard : ∀ x ∈ standardColors.map Prod.fst, (s.colors.get? x).isSome
  aliases : ∀ x, (s.colors.get? x).isSome → (s.colors.color? x).isSome
  terminal : ∀ k : TerminalColor, (s.colors.color? k.name).isSome
  issues : ∀ columns matcher scope name x,
    (Issue.vocabulary columns matcher).resolver.color name scope = .ok (some x) →
      (s.colors.color? x).isSome
  labels : ∀ columns matcher scope name x,
    (Label.vocabulary columns matcher).resolver.color name scope = .ok (some x) →
      (s.colors.color? x).isSome
  config : ∀ scope name x, ConfigEntry.vocabulary.resolver.color name scope = .ok (some x) →
    (s.colors.color? x).isSome
  setFormat : ∀ kind, s.setFormat kind (s.format kind) = .ok s

theorem Checked.setFormat_format {s : Settings} (h : Checked s) (kind : ListingKind) :
    s.setFormat kind (s.format kind) = .ok s := by
  rw [setFormat_eq_ok_iff, readNewlines_of_not_infix (h.newlines kind)]
  refine ⟨h.valid kind, ?_⟩
  rw [format, Formats.set_get]

theorem Reachable.inOrder {s : Settings} (h : s.Reachable) : s.InOrder where
  check := h.sound.check
  valid := h.checked.valid
  newlines := h.checked.newlines
  standard := h.sound.standard
  aliases _ hx := Palette.isSome_color?_of_check h.sound.check hx
  terminal := Palette.isSome_color?_name h.sound.check
  issues columns matcher scope _ _ hx :=
    isSome_color?_of_answer (Issue.names_vocabulary h.sound columns matcher scope) hx
  labels columns matcher scope _ _ hx :=
    isSome_color?_of_answer (Label.names_vocabulary h.sound columns matcher scope) hx
  config scope _ _ hx := isSome_color?_of_answer (ConfigEntry.names_vocabulary h.sound scope) hx
  setFormat := h.checked.setFormat_format

def shaded : Settings :=
  ⟨.standard, standard.colors.overlay (.ofList [("Yellow", "DarkGreen"), ("Accent", "Yellow")])⟩

theorem ofText_shaded :
    ofText "colors: \x7bYellow: DarkGreen, Accent: Yellow\x7d\n" = .ok shaded := by
  have hread : Overrides.read "colors: \x7bYellow: DarkGreen, Accent: Yellow\x7d\n" =
      some ⟨none, none, none, [("Yellow", "DarkGreen"), ("Accent", "Yellow")]⟩ := by cbv
  have hcheck : shaded.check = .ok () := check_eq_ok_iff.2 ⟨rfl, checked_standard.valid⟩
  exact ofText_eq_ok_iff.2 ⟨_, hread, ofOverrides_eq_ok_iff.2 ⟨hcheck, rfl⟩⟩

def reshaded : Settings :=
  ⟨shaded.formats.set .config "$key\n$value", shaded.colors.insert "Issue_Open" "Accent"⟩

theorem reachable_reshaded : reshaded.Reachable := by
  have hvalid : Template.validate (readNewlines "$key\\n$value") = .ok () := by cbv
  have hformat : shaded.setFormat .config "$key\\n$value" = .ok _ :=
    setFormat_eq_ok_iff.2 ⟨hvalid, rfl⟩
  have hcolor : Settings.setColor ⟨reshaded.formats, shaded.colors⟩ "Issue_Open" "Accent" =
      .ok reshaded := setColor_eq_ok_iff.2 ⟨rfl, rfl⟩
  exact .setColor (.setFormat (.ofText ofText_shaded) hformat) hcolor

theorem inOrder_reshaded : reshaded.Reachable ∧ reshaded.InOrder ∧
    reshaded.colors.color? "Issue_Open" = some .darkGreen :=
  ⟨reachable_reshaded, reachable_reshaded.inOrder, rfl⟩

end Listing.Settings
