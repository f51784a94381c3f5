import Listing.Proofs.Paint.Prints
import Listing.Proofs.Settings.Reachable
import Listing.Vocabulary

namespace Listing

open Settings

variable {p : Palette} {C : Type}

namespace Dict

variable {α : Type}

def All (d : Dict α) (P : α → Prop) : Prop := ∀ x v, d.get? x = some v → P v

theorem all_empty (P : α → Prop) : (empty : Dict α).All P := nofun

theorem All.insert {d : Dict α} {P : α → Prop} (h : d.All P) (k : Text) {v : α} (hv : P v) :
    (d.insert k v).All P := by
  intro x w hw
  rw [get?_insert] at hw
  by_cases hx : x = k
  · rw [if_pos hx] at hw
    cases hw
    exact hv
  · rw [if_neg hx] at hw
    exact h x w hw

theorem All.imp {d : Dict α} {P Q : α → Prop} (h : d.All P) (hPQ : ∀ v, P v → Q v) : d.All Q :=
  fun x v hv => hPQ v (h x v hv)

end Dict

def NamesColor (p : Palette) (x : Text) : Prop := IsSpanName x ∧ (p.color? x).isSome

theorem namesColor_standard (hp : Sound p) {x : Text} (hx : x ∈ standardColors.map Prod.fst) :
    NamesColor p x := by
  have hnames : ∀ x ∈ standardColors.map Prod.fst, IsSpanName x := by decide
  exact ⟨hnames x hx, hp.isSome_color? hx⟩

theorem namesColor_name (hp : Sound p) (k : TerminalColor) : NamesColor p k.name := by
  refine ⟨?_, Palette.isSome_color?_name hp.check k⟩
  cases k <;> decide

theorem namesColor_labelColor (hp : Sound p) {matcher : Matcher} {color x : Text}
    (h : labelColor matcher color = some x) : NamesColor p x := by
  obtain ⟨c, -, rfl⟩ := Option.map_eq_some_iff.1 h
  exact namesColor_name hp (matcher c)

def Vocabulary.answers (v : Vocabulary C) (depth : Nat) (scope : C) : Answers :=
  v.resolver.answers (v.render depth) scope

def AnswersName (p : Palette) (s : C) (f : C → Except ResolveError (Option Text)) : Prop :=
  ∃ k, f s = .ok k ∧ ∀ x, k = some x → NamesColor p x

def AnswersColor (p : Palette) (s : C) (f : C → Except ResolveError (Option Text)) : Prop :=
  ∃ k, f s = .ok k ∧ IsColor p (k.getD [])

theorem AnswersName.answersColor {s : C} {f : C → Except ResolveError (Option Text)}
    (h : AnswersName p s f) : AnswersColor p s f := by
  obtain ⟨k, hk, hnames⟩ := h
  refine ⟨k, hk, ?_⟩
  cases k with
  | none => exact isColor_nil
  | some x => exact ⟨(hnames x rfl).1, .inr (hnames x rfl).2⟩

/-- What a vocabulary answers is the name of a color when each of its definitions answers so. -/
theorem isSome_color?_of_answer {v : Vocabulary C} {s : C} (hv : v.colors.All (AnswersName p s))
    {name x : Text} (h : v.resolver.color name s = .ok (some x)) : (p.color? x).isSome := by
  unfold Vocabulary.resolver at h
  cases hf : v.colors.get? name with
  | none => simp [hf] at h
  | some f =>
    obtain ⟨k, hk, hnames⟩ := hv name f hf
    simp only [hf, hk, Except.ok.injEq] at h
    exact (hnames x h).2

theorem color_answers {v : Vocabulary C} {s : C} (hv : v.colors.All (AnswersColor p s))
    (depth : Nat) (name : Text) :
    ∃ k, (v.answers depth s).color name = .ok k ∧ IsColor p (k.getD []) := by
  change AnswersColor p s (v.resolver.color name)
  cases h : v.colors.get? name with
  | none => exact ⟨none, by simp [Vocabulary.resolver, h], isColor_nil⟩
  | some f =>
    obtain ⟨k, hk, hcolor⟩ := hv name f h
    exact ⟨k, by simpa [Vocabulary.resolver, h] using hk, hcolor⟩

theorem Issue.names_vocabulary (hp : Sound p) (columns : IssueColumns) (matcher : Matcher)
    (s : IssueScope) : (vocabulary columns matcher).colors.All (AnswersName p s) := by
  have hnumber : AnswersName p s fun s => .ok (some s.record.numberColor) := by
    refine ⟨_, rfl, fun x hx => ?_⟩
    obtain rfl := Option.some.inj hx
    apply namesColor_standard hp
    unfold numberColor
    split <;> decide
  have hassignee : AnswersName p s fun s =>
      .ok (some (s.record.assigneeColor columns.viewer)) := by
    refine ⟨_, rfl, fun x hx => ?_⟩
    obtain rfl := Option.some.inj hx
    apply namesColor_standard hp
    unfold assigneeColor
    split <;> decide
  have hlabel : AnswersName p s fun s =>
      .ok (s.item.bind fun l => labelColor matcher l.color) := by
    refine ⟨_, rfl, fun x hx => ?_⟩
    obtain ⟨l, -, hl⟩ := Option.bind_eq_some_iff.1 hx
    exact namesColor_labelColor hp hl
  exact ((((((((Dict.all_empty _).insert _ hnumber).insert _ hnumber).insert _ hnumber).insert _
    hassignee).insert _ hassignee).insert _ hassignee).insert _ hlabel)

theorem Label.names_vocabulary (hp : Sound p) (columns : LabelColumns) (matcher : Matcher)
    (s : LabelScope) : (vocabulary columns matcher).colors.All (AnswersName p s) := by
  have hlabel : AnswersName p s fun s => .ok (labelColor matcher s.record.color) :=
    ⟨_, rfl, fun _ hx => namesColor_labelColor hp hx⟩
  exact ((((Dict.all_empty _).insert _ hlabel).insert _ hlabel).insert _ hlabel).insert _ hlabel

theorem ConfigEntry.names_vocabulary (hp : Sound p) (s : ConfigScope) :
    vocabulary.colors.All (AnswersName p s) := by
  have hkey : AnswersName p s fun _ => .ok (some ("Config_Key" : Text)) := by
    refine ⟨_, rfl, fun x hx => ?_⟩
    obtain rfl := Option.some.inj hx
    exact namesColor_standard hp (by decide)
  exact (Dict.all_empty _).insert _ hkey

theorem Issue.colors_vocabulary (hp : Sound p) (columns : IssueColumns) (matcher : Matcher)
    (s : IssueScope) : (vocabulary columns matcher).colors.All (AnswersColor p s) :=
  (names_vocabulary hp columns matcher s).imp fun _ h => h.answersColor

theorem Label.colors_vocabulary (hp : Sound p) (columns : LabelColumns) (matcher : Matcher)
    (s : LabelScope) : (vocabulary columns matcher).colors.All (AnswersColor p s) :=
  (names_vocabulary hp columns matcher s).imp fun _ h => h.answersColor

theorem ConfigEntry.colors_vocabulary (hp : Sound p) (s : ConfigScope) :
    vocabulary.colors.All (AnswersColor p s) :=
  (names_vocabulary hp s).imp fun _ h => h.answersColor

end Listing
