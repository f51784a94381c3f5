import Listing.Proofs.Color.Overlay
import Listing.Proofs.Settings.Reachable

namespace Listing

inductive Change
  | format (kind : ListingKind) (format : Text)
  | color (name target : Text)

namespace Change

def format? (kind : ListingKind) : Change → Option Text
  | .format kind' t => if kind = kind' then some t else none
  | .color _ _ => none

def target? (name : Text) : Change → Option Text
  | .format _ _ => none
  | .color name' target => if name = name' then some target else none

def lastFormat (kind : ListingKind) (cs : List Change) : Option Text :=
  (cs.filterMap (format? kind)).getLast?

def lastTarget (name : Text) (cs : List Change) : Option Text :=
  (cs.filterMap (target? name)).getLast?

theorem getLast?_filterMap_concat {α β : Type} (f : α → Option β) (xs : List α) (x : α) :
    ((xs ++ [x]).filterMap f).getLast? = (f x).or (xs.filterMap f).getLast? := by
  rw [List.filterMap_append, List.getLast?_append]
  cases h : f x <;> simp [h]

end Change

/-- The overrides are those that a run of changes set last. -/
structure Overrides.Holds (o : Overrides) (cs : List Change) : Prop where
  format : ∀ kind, o.format? kind = Change.lastFormat kind cs
  color : ∀ name, (Palette.ofList o.colors).get? name = Change.lastTarget name cs

theorem get?_ofList_concat (es : List (Text × Text)) (e : Text × Text) (name : Text) :
    (Palette.ofList (es ++ [e])).get? name =
      if name = e.1 then some e.2 else (Palette.ofList es).get? name := by
  have hinsert : Palette.ofList (es ++ [e]) = (Palette.ofList es).insert e.1 e.2 := by
    simp [Palette.ofList, Dict.ofList, Palette.insert]
  rw [hinsert, Palette.get?_insert]

theorem Overrides.exists_holds (cs : List Change) : ∃ o : Overrides, o.Holds cs := by
  have hcolors : ∃ es : List (Text × Text), ∀ name,
      (Palette.ofList es).get? name = Change.lastTarget name cs := by
    induction cs using List.reverseRecOn with
    | nil => exact ⟨[], fun _ => rfl⟩
    | append_singleton cs c ih =>
      obtain ⟨es, hes⟩ := ih
      cases c with
      | format kind format =>
        refine ⟨es, fun name => ?_⟩
        rw [hes, Change.lastTarget, Change.lastTarget, Change.getLast?_filterMap_concat]
        rfl
      | color name target =>
        refine ⟨es ++ [(name, target)], fun name' => ?_⟩
        rw [get?_ofList_concat, hes, Change.lastTarget, Change.lastTarget,
          Change.getLast?_filterMap_concat, Change.target?]
        split
        · rfl
        · rfl
  obtain ⟨es, hes⟩ := hcolors
  refine ⟨⟨Change.lastFormat .issues cs, Change.lastFormat .labels cs,
    Change.lastFormat .config cs, es⟩, fun kind => ?_, hes⟩
  cases kind <;> rfl

def Overrides.formatChanges (o : Overrides) : List Change :=
  ListingKind.all.filterMap fun kind => (o.format? kind).map (.format kind)

def colorChanges (es : List (Text × Text)) : List Change := es.map fun e => .color e.1 e.2

namespace Settings

variable {s s' : Settings} {c : Change} {cs before : List Change} {o : Overrides}

def apply (s : Settings) : Change → Except SettingsError Settings
  | .format kind format => s.setFormat kind format
  | .color name target => s.setColor name target

def run (s : Settings) (cs : List Change) : Except SettingsError Settings := cs.foldlM apply s

/-- Settings to which these changes lead from the standard ones. -/
structure Reflects (s : Settings) (cs : List Change) : Prop where
  checked : Checked s
  format : ∀ kind, s.format kind =
    ((Change.lastFormat kind cs).map readNewlines).getD (standard.format kind)
  color : ∀ name, s.colors.get? name =
    (Change.lastTarget name cs).or (standard.colors.get? name)

theorem Reflects.apply (hs : s.Reflects cs) (h : s.apply c = .ok s') : s'.Reflects (cs ++ [c]) := by
  cases c with
  | format kind format =>
    obtain ⟨-, rfl⟩ := setFormat_eq_ok_iff.1 h
    refine ⟨hs.checked.setFormat h, fun kind' => ?_, fun name => ?_⟩
    · rw [Settings.format, Formats.get_set, Change.lastFormat, Change.getLast?_filterMap_concat,
        Change.format?]
      split
      · rfl
      · exact hs.format kind'
    · rw [Change.lastTarget, Change.getLast?_filterMap_concat]
      exact hs.color name
  | color name target =>
    obtain ⟨-, rfl⟩ := setColor_eq_ok_iff.1 h
    refine ⟨hs.checked.setColor h, fun kind => ?_, fun name' => ?_⟩
    · rw [Change.lastFormat, Change.getLast?_filterMap_concat]
      exact hs.format kind
    · rw [Palette.get?_insert, Change.lastTarget, Change.getLast?_filterMap_concat, Change.target?]
      split
      · rfl
      · exact hs.color name'

theorem Reflects.run (hs : s.Reflects before) (h : s.run cs = .ok s') :
    s'.Reflects (before ++ cs) := by
  induction cs generalizing s before with
  | nil =>
    cases h
    rwa [List.append_nil]
  | cons c cs ih =>
    obtain ⟨s₁, hc, hcs⟩ := bind_eq_ok h
    have hrest := ih (hs.apply hc) hcs
    rwa [List.append_assoc] at hrest

theorem reflects_of_run (h : standard.run cs = .ok s) : s.Reflects cs := by
  have hstandard : standard.Reflects [] := ⟨checked_standard, fun _ => rfl, fun _ => rfl⟩
  exact hstandard.run h

theorem Reflects.ofOverrides (hs : s.Reflects cs) (ho : o.Holds cs) : ofOverrides o = .ok s := by
  have heq : s = overridden o := by
    obtain ⟨formats, colors⟩ := s
    have hformats : formats = (overridden o).formats := by
      refine Formats.ext_get fun kind => ?_
      have h := format_overridden o kind
      rw [ho.format] at h
      exact (hs.format kind).trans h.symm
    have hcolors : colors.aliases = (overridden o).colors.aliases := by
      refine Dict.ext fun name => ?_
      have h := Palette.get?_overlay standard.colors (.ofList o.colors) name
      rw [ho.color] at h
      exact (hs.color name).trans h.symm
    rw [hformats]
    exact congrArg (Settings.mk _) (congrArg Palette.mk hcolors)
  subst heq
  have hcheck := check_eq_ok_iff.2 ⟨hs.checked.colors.check, hs.checked.valid⟩
  exact ofOverrides_eq_ok_iff.2 ⟨hcheck, rfl⟩

theorem run_cons (s : Settings) (c : Change) (cs : List Change) :
    s.run (c :: cs) = s.apply c >>= fun s => s.run cs :=
  List.foldlM_cons

theorem run_format {kind : ListingKind} {format : Text}
    (h : Template.validate (readNewlines format) = .ok ()) :
    s.run (.format kind format :: cs) =
      run { s with formats := s.formats.set kind (readNewlines format) } cs := by
  have hset : s.apply (.format kind format) = .ok _ := setFormat_eq_ok_iff.2 ⟨h, rfl⟩
  rw [run_cons, hset]
  rfl

theorem run_color {name target : Text} (h : (s.colors.insert name target).check = .ok ()) :
    s.run (.color name target :: cs) =
      run { s with colors := s.colors.insert name target } cs := by
  have hset : s.apply (.color name target) = .ok _ := setColor_eq_ok_iff.2 ⟨h, rfl⟩
  rw [run_cons, hset]
  rfl

theorem run_append (s : Settings) (cs ds : List Change) :
    s.run (cs ++ ds) = s.run cs >>= fun s => s.run ds :=
  List.foldlM_append

theorem run_colorChanges {es : List (Text × Text)}
    (h : ∀ before, before <+: es → (s.colors.insertAll before).check = .ok ()) :
    s.run (colorChanges es) = .ok { s with colors := s.colors.insertAll es } := by
  induction es using List.reverseRecOn with
  | nil => rfl
  | append_singleton es e ih =>
    have hbefore := ih fun before hinit => h before (hinit.trans (List.prefix_append es [e]))
    have hlast := h _ (List.prefix_refl (es ++ [e]))
    rw [Palette.insertAll_concat] at hlast ⊢
    rw [colorChanges, List.map_append, run_append, ← colorChanges, hbefore]
    exact run_color hlast

theorem run_formats (kinds : List ListingKind)
    (h : ∀ kind format, o.format? kind = some format →
      Template.validate (readNewlines format) = .ok ()) :
    s.run (kinds.filterMap fun kind => (o.format? kind).map (.format kind)) =
      .ok { s with
        formats := kinds.foldl (fun f kind => override f kind (o.format? kind)) s.formats } := by
  induction kinds generalizing s with
  | nil => rfl
  | cons kind kinds ih =>
    cases hformat : o.format? kind with
    | none =>
      rw [List.filterMap_cons_none (by rw [hformat]; rfl), ih, List.foldl_cons, hformat]
      rfl
    | some format =>
      rw [List.filterMap_cons_some (by rw [hformat]; rfl), List.foldl_cons, hformat,
        run_format (h kind format hformat), ih]
      rfl

theorem exists_run (h : ofOverrides o = .ok s) :
    ∃ order : List (Text × Text), order.Perm (Palette.ofList o.colors).aliases.entries ∧
      standard.run (colorChanges order ++ o.formatChanges) = .ok s := by
  obtain ⟨hcheck, rfl⟩ := ofOverrides_eq_ok_iff.1 h
  obtain ⟨hcolors, hvalid⟩ := check_eq_ok_iff.1 hcheck
  obtain ⟨order, hperm, horder⟩ :=
    Palette.exists_order checked_standard.colors.check hcolors
  refine ⟨order, hperm, ?_⟩
  have hformats : ∀ kind format, o.format? kind = some format →
      Template.validate (readNewlines format) = .ok () := by
    intro kind format hformat
    have h := hvalid kind
    rwa [format_overridden, hformat] at h
  rw [run_append, run_colorChanges horder, Palette.insertAll_eq_overlay hperm]
  exact run_formats ListingKind.all hformats

/-- Between them, the three parts say that a document is as good as a run of changes. -/
theorem documents_agree_with_runs :
    (∀ cs s, standard.run cs = .ok s →
      (∃ o : Overrides, o.Holds cs) ∧ ∀ o : Overrides, o.Holds cs → ofOverrides o = .ok s) ∧
    (∀ (o : Overrides) s, ofOverrides o = .ok s → ∃ order : List (Text × Text),
      order.Perm (Palette.ofList o.colors).aliases.entries ∧
        standard.run (colorChanges order ++ o.formatChanges) = .ok s) ∧
    ∀ t s, ofText t = .ok s ↔ ∃ o, Overrides.read t = some o ∧ ofOverrides o = .ok s := by
  refine ⟨fun cs s h => ?_, fun o s => exists_run, fun t s => ofText_eq_ok_iff⟩
  exact ⟨Overrides.exists_holds cs, fun o ho => (reflects_of_run h).ofOverrides ho⟩

def chainedChanges : List Change :=
  [.color "Accent" "Red", .format .config "$key", .color "Yellow" "Accent",
    .format .config "$key\\n$value", .color "Accent" "Blue"]

def chained : Settings :=
  ⟨Formats.standard.set .config "$key\n$value",
    ((standard.colors.insert "Accent" "Red").insert "Yellow" "Accent").insert "Accent" "Blue"⟩

def chainedOverrides : Overrides :=
  ⟨none, none, some "$key\\n$value", [("Yellow", "Accent"), ("Accent", "Blue")]⟩

def chainedText : Text :=
  ("formats: \x7bconfig: '$key\\n$value'\x7d\n" : Text) ++
    ("colors: \x7bYellow: Accent, Accent: Blue\x7d\n" : Text)

theorem run_chained : standard.run chainedChanges = .ok chained := by
  have hkey : Template.validate (readNewlines "$key") = .ok () := by cbv
  have hlines : Template.validate (readNewlines "$key\\n$value") = .ok () := by cbv
  have hred : (standard.colors.insert "Accent" "Red").check = .ok () := by decide +kernel
  have hyellow : ((standard.colors.insert "Accent" "Red").insert "Yellow" "Accent").check =
      .ok () := by decide +kernel
  rw [chainedChanges, run_color hred, run_format hkey, run_color hyellow, run_format hlines]
  exact run_color (by decide +kernel)

theorem holds_chained : chainedOverrides.Holds chainedChanges := by
  refine ⟨fun kind => by cases kind <;> rfl, fun name => ?_⟩
  have hyellow : (Palette.ofList [("Yellow", "Accent")]).get? name =
      if name = "Yellow" then some ("Accent" : Text) else none :=
    get?_ofList_concat [] ("Yellow", "Accent") name
  have haccent : (Palette.ofList chainedOverrides.colors).get? name =
      if name = "Accent" then some ("Blue" : Text)
      else (Palette.ofList [("Yellow", "Accent")]).get? name :=
    get?_ofList_concat [("Yellow", "Accent")] ("Accent", "Blue") name
  rw [haccent, hyellow]
  by_cases ha : name = "Accent"
  · subst ha
    rfl
  by_cases hy : name = "Yellow"
  · subst hy
    rfl
  · have hnone : chainedChanges.filterMap (Change.target? name) = [] := by
      simp only [chainedChanges, List.filterMap_cons, Change.target?, if_neg ha, if_neg hy,
        List.filterMap_nil]
    rw [if_neg ha, if_neg hy, Change.lastTarget, hnone]
    rfl

theorem documents_agree_with_runs_chained :
    standard.run chainedChanges = .ok chained ∧ chainedOverrides.Holds chainedChanges ∧
    Overrides.read chainedText = some chainedOverrides ∧ ofText chainedText = .ok chained ∧
    ∃ order : List (Text × Text),
      order.Perm (Palette.ofList chainedOverrides.colors).aliases.entries ∧
        standard.run (colorChanges order ++ chainedOverrides.formatChanges) = .ok chained := by
  obtain ⟨hdocument, hrun, htext⟩ := documents_agree_with_runs
  have hread : Overrides.read chainedText = some chainedOverrides := by cbv
  have hload : ofOverrides chainedOverrides = .ok chained :=
    (hdocument _ _ run_chained).2 _ holds_chained
  exact ⟨run_chained, holds_chained, hread, (htext _ _).2 ⟨_, hread, hload⟩, hrun _ _ hload⟩

end Settings

end Listing
