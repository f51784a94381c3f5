import Listing.Proofs.Outcome
import Listing.Settings.Basic

namespace Listing

theorem head?_readNewlines {t : Text} (h : (readNewlines t).head? = some 'n') :
    t.head? = some 'n' := by
  fun_cases readNewlines t with
  | case1 => simp [readNewlines] at h
  | case2 t => simp [readNewlines] at h
  | case3 c t hpair => simpa [readNewlines] using h

theorem not_infix_readNewlines (t : Text) : ¬ ['\\', 'n'] <:+: readNewlines t := by
  fun_induction readNewlines t with
  | case1 => simp
  | case2 t ih =>
    rw [List.infix_cons_iff]
    rintro (h | h)
    · simp [List.cons_prefix_cons] at h
    · exact ih h
  | case3 c t hpair ih =>
    rw [List.infix_cons_iff]
    rintro (h | h)
    · obtain ⟨hc, h⟩ := List.cons_prefix_cons.1 h
      obtain ⟨u, hu⟩ := h
      have hn : t.head? = some 'n' := head?_readNewlines (by rw [← hu]; rfl)
      obtain ⟨t', rfl⟩ := List.head?_eq_some_iff.1 hn
      exact hpair t' hc.symm rfl
    · exact ih h

theorem readNewlines_of_not_infix {t : Text} (h : ¬ ['\\', 'n'] <:+: t) : readNewlines t = t := by
  fun_induction readNewlines t with
  | case1 => rfl
  | case2 t ih => exact absurd (List.prefix_append _ t).isInfix h
  | case3 c t hpair ih => rw [ih fun hpart => h (hpart.trans (List.suffix_cons c t).isInfix)]

theorem not_infix_of_not_mem {t : Text} (h : '\\' ∉ t) : ¬ ['\\', 'n'] <:+: t :=
  fun hpart => h (hpart.subset List.mem_cons_self)

theorem ListingKind.mem_all (kind : ListingKind) : kind ∈ all := by cases kind <;> decide

namespace Formats

theorem get_set (f : Formats) (kind kind' : ListingKind) (t : Text) :
    (f.set kind t).get kind' = if kind' = kind then t else f.get kind' := by
  cases kind <;> cases kind' <;> rfl

theorem set_get (f : Formats) (kind : ListingKind) : f.set kind (f.get kind) = f := by
  cases kind <;> rfl

theorem ext_get {f g : Formats} (h : ∀ kind, f.get kind = g.get kind) : f = g := by
  obtain ⟨_, _, _⟩ := f
  obtain ⟨_, _, _⟩ := g
  exact congr (congr (congrArg mk (h .issues)) (h .labels)) (h .config)

end Formats

def Overrides.format? (o : Overrides) : ListingKind → Option Text
  | .issues => o.issues
  | .labels => o.labels
  | .config => o.config

namespace Settings

variable {s s' : Settings} {kind : ListingKind} {format name target : Text} {o : Overrides}

theorem checkTemplate_eq_ok_iff {t : Text} :
    checkTemplate kind t = .ok () ↔ Template.validate t = .ok () := by
  rw [checkTemplate, mapError_eq_ok_iff]

theorem check_eq_ok_iff :
    s.check = .ok () ↔
      s.colors.check = .ok () ∧ ∀ kind, Template.validate (s.format kind) = .ok () := by
  have hformats : (ListingKind.all.forM fun kind =>
      (checkTemplate kind (s.format kind)).mapError SettingsError.format) = .ok () ↔
      ∀ kind, Template.validate (s.format kind) = .ok () := by
    rw [forM_eq_ok_iff]
    simp only [mapError_eq_ok_iff, checkTemplate_eq_ok_iff]
    exact ⟨fun h kind => h kind kind.mem_all, fun h kind _ => h kind⟩
  rw [← hformats]
  constructor
  · intro h
    obtain ⟨_, hcolors, h⟩ := bind_eq_ok h
    exact ⟨mapError_eq_ok hcolors, h⟩
  · rintro ⟨hcolors, h⟩
    rw [check, hcolors]
    exact h

theorem setFormat_eq_ok_iff :
    s.setFormat kind format = .ok s' ↔ Template.validate (readNewlines format) = .ok () ∧
      s' = { s with formats := s.formats.set kind (readNewlines format) } := by
  refine check_bind_eq_ok_iff.trans ?_
  rw [mapError_eq_ok_iff, checkTemplate_eq_ok_iff]

theorem setFormat_eq_error_iff {e : SettingsError} :
    s.setFormat kind format = .error e ↔
      ∃ m, Template.validate (readNewlines format) = .error m ∧ e = .format ⟨kind, m⟩ := by
  refine check_bind_eq_error_iff.trans ?_
  rw [checkTemplate, mapError_mapError, mapError_eq_error_iff]

theorem setColor_eq_ok_iff :
    s.setColor name target = .ok s' ↔ (s.colors.insert name target).check = .ok () ∧
      s' = { s with colors := s.colors.insert name target } := by
  refine check_bind_eq_ok_iff.trans ?_
  rw [mapError_eq_ok_iff]

def overridden (o : Overrides) : Settings where
  formats := override (override (override .standard .issues o.issues) .labels o.labels) .config
    o.config
  colors := standard.colors.overlay (.ofList o.colors)

theorem format_overridden (o : Overrides) (kind : ListingKind) :
    (overridden o).format kind =
      ((o.format? kind).map readNewlines).getD (standard.format kind) := by
  obtain ⟨issues, labels, config, colors⟩ := o
  cases kind <;> cases issues <;> cases labels <;> cases config <;> rfl

theorem ofOverrides_eq_ok_iff :
    ofOverrides o = .ok s ↔ (overridden o).check = .ok () ∧ s = overridden o :=
  check_bind_eq_ok_iff

theorem ofText_eq_ok_iff {t : Text} :
    ofText t = .ok s ↔ ∃ o, Overrides.read t = some o ∧ ofOverrides o = .ok s := by
  rw [ofText]
  cases Overrides.read t with
  | none => exact ⟨nofun, fun ⟨_, h, _⟩ => nomatch h⟩
  | some o => exact ⟨fun h => ⟨o, rfl, h⟩, fun ⟨_, ho, h⟩ => Option.some.inj ho ▸ h⟩

end Settings

end Listing
