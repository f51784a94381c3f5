import Listing.Proofs.Render.Failing
import Listing.Proofs.Vocabulary.Colors

namespace Listing

open Template

variable {C : Type} {E : RenderError → Prop} {I : C → Prop}

theorem failsOnlyIn_ok {α : Type} (g : C → α) : FailsOnlyIn E I fun s => .ok (g s) :=
  fun s _ => .ok (g s)

def Callee.FailsOnlyIn (E : RenderError → Prop) (I : C → Prop) (f : Callee C) : Prop :=
  ∀ args s (render : Renderer C), I s →
    (∀ a ∈ args, ∀ s', I s' → FailsOnly E (render a s')) → FailsOnly E (f args s render)

namespace Vocabulary

structure FailsOnly (v : Vocabulary C) (E : RenderError → Prop) (I : C → Prop) : Prop where
  values : v.values.All (FailsOnlyIn E I)
  colors : v.colors.All (FailsOnlyIn E I)
  conditions : v.conditions.All (FailsOnlyIn E I)
  functions : v.functions.All (Callee.FailsOnlyIn E I)

variable {v : Vocabulary C}

theorem failsOnly_empty : (empty : Vocabulary C).FailsOnly E I :=
  ⟨Dict.all_empty _, Dict.all_empty _, Dict.all_empty _, Dict.all_empty _⟩

namespace FailsOnly

theorem defineValue (hv : v.FailsOnly E I) (name : Text) {f : C → Except ResolveError Text}
    (hf : FailsOnlyIn E I f) : (v.defineValue name f).FailsOnly E I :=
  { hv with values := hv.values.insert name hf }

theorem defineColor (hv : v.FailsOnly E I) (name : Text)
    {f : C → Except ResolveError (Option Text)} (hf : FailsOnlyIn E I f) :
    (v.defineColor name f).FailsOnly E I :=
  { hv with colors := hv.colors.insert name hf }

theorem defineColors (hv : v.FailsOnly E I) (names : List Text)
    {f : C → Except ResolveError (Option Text)} (hf : FailsOnlyIn E I f) :
    (v.defineColors names f).FailsOnly E I := by
  induction names generalizing v with
  | nil => exact hv
  | cons name names ih => exact ih (hv.defineColor name hf)

theorem defineCondition (hv : v.FailsOnly E I) (key : Text) {f : C → Except ResolveError Bool}
    (hf : FailsOnlyIn E I f) : (v.defineCondition key f).FailsOnly E I :=
  { hv with conditions := hv.conditions.insert key hf }

theorem defineFunction (hv : v.FailsOnly E I) (name : Text) {f : Callee C}
    (hf : Callee.FailsOnlyIn E I f) : (v.defineFunction name f).FailsOnly E I :=
  { hv with functions := hv.functions.insert name hf }

theorem resolver (hv : v.FailsOnly E I) : v.resolver.FailsOnly E I where
  value name s hs := by
    cases h : v.values.get? name with
    | none => simpa only [Vocabulary.resolver, h] using .ok none
    | some f => simpa only [Vocabulary.resolver, h] using (hv.values name f h s hs).map some
  color name s hs := by
    cases h : v.colors.get? name with
    | none => simpa only [Vocabulary.resolver, h] using .ok none
    | some f => simpa only [Vocabulary.resolver, h] using hv.colors name f h s hs
  condition key s hs := by
    cases h : v.conditions.get? key with
    | none => simpa only [Vocabulary.resolver, h] using .ok none
    | some f => simpa only [Vocabulary.resolver, h] using (hv.conditions key f h s hs).map some
  call depth name args s hs hargs := by
    cases h : v.functions.get? name with
    | none => simpa only [Vocabulary.resolver, h] using .ok none
    | some f => simpa only [Vocabulary.resolver, h] using hv.functions name f h args s _ hs hargs

theorem render (hv : v.FailsOnly E I) {t : Text} (ht : validate t = .ok ()) {depth : Nat}
    (hdepth : t.length < depth) {s : C} (hs : I s) : Listing.FailsOnly E (v.render depth t s) :=
  hv.resolver.render ((validate_eq_ok_iff t).1 ht) (.inr hdepth) hs

end FailsOnly

end Vocabulary

theorem Label.failsOnly_vocabulary (columns : LabelColumns) (matcher : Matcher)
    {I : LabelScope → Prop} : (vocabulary columns matcher).FailsOnly E I :=
  Vocabulary.failsOnly_empty
    |>.defineValue "name" (failsOnlyIn_ok _)
    |>.defineValue "+name" (failsOnlyIn_ok _)
    |>.defineValue "name+" (failsOnlyIn_ok _)
    |>.defineValue "color" (failsOnlyIn_ok _)
    |>.defineColors ["name", "+name", "name+", "color"] (failsOnlyIn_ok _)

theorem ConfigEntry.failsOnly_vocabulary {I : ConfigScope → Prop} : vocabulary.FailsOnly E I :=
  Vocabulary.failsOnly_empty
    |>.defineValue "key" (failsOnlyIn_ok _)
    |>.defineValue "value" (failsOnlyIn_ok _)
    |>.defineCondition "value" (failsOnlyIn_ok _)
    |>.defineColor "key" (failsOnlyIn_ok _)

theorem Separators.mem_of_ofArguments {args : List Text} {item : Text} {s : Separators}
    (h : ofArguments args = some (item, s)) : item ∈ args := by
  match args with
  | [_] | [_, _] | _ :: _ :: _ :: _ =>
    cases h
    exact List.mem_cons_self

namespace Issue

variable {I : IssueScope → Prop}

/-- A list brings no errors but those of its item, in the scopes of the labels. -/
theorem failsOnlyIn_renderLabels (hfocus : ∀ s l, I s → I (s.focus l)) :
    Callee.FailsOnlyIn E I renderLabels := by
  intro args s render hs hargs
  unfold renderLabels
  split
  · exact .ok none
  · next item separators hargument =>
    have hitem : ∀ s' ∈ s.record.labels.map s.focus, FailsOnly E (render item s') := by
      intro s' hs'
      obtain ⟨l, -, rfl⟩ := List.mem_map.1 hs'
      exact hargs item (Separators.mem_of_ofArguments hargument) _ (hfocus s l hs)
    exact ((FailsOnly.mapM hitem).map separators.join).map some

theorem failsOnlyIn_label
    (hlabel : ∀ s, I s → s.item = none → E (.unresolved (.outsideList "label"))) :
    FailsOnlyIn E I fun s => do return escape (← s.itemFor "label").name := by
  intro s hs
  obtain ⟨record, item⟩ := s
  cases item with
  | none =>
    intro e he
    cases he
    exact hlabel _ hs rfl
  | some l => exact .ok _

theorem failsOnly_vocabulary (columns : IssueColumns) (matcher : Matcher)
    (hfocus : ∀ s l, I s → I (s.focus l))
    (hlabel : ∀ s, I s → s.item = none → E (.unresolved (.outsideList "label"))) :
    (vocabulary columns matcher).FailsOnly E I :=
  Vocabulary.failsOnly_empty
    |>.defineValue "number" (failsOnlyIn_ok _)
    |>.defineValue "+number" (failsOnlyIn_ok _)
    |>.defineValue "number+" (failsOnlyIn_ok _)
    |>.defineValue "assignee" (failsOnlyIn_ok _)
    |>.defineValue "+assignee" (failsOnlyIn_ok _)
    |>.defineValue "assignee+" (failsOnlyIn_ok _)
    |>.defineValue "title" (failsOnlyIn_ok _)
    |>.defineValue "description" (failsOnlyIn_ok _)
    |>.defineValue "state" (failsOnlyIn_ok _)
    |>.defineValue "label" (failsOnlyIn_label hlabel)
    |>.defineColors ["number", "+number", "number+"] (failsOnlyIn_ok _)
    |>.defineColors ["assignee", "+assignee", "assignee+"] (failsOnlyIn_ok _)
    |>.defineColor "label" (failsOnlyIn_ok _)
    |>.defineCondition "labels" (failsOnlyIn_ok _)
    |>.defineCondition "assignee" (failsOnlyIn_ok _)
    |>.defineCondition "description" (failsOnlyIn_ok _)
    |>.defineCondition "open" (failsOnlyIn_ok _)
    |>.defineCondition "closed" (failsOnlyIn_ok _)
    |>.defineFunction "labels" (failsOnlyIn_renderLabels hfocus)

end Issue

section Valid

variable {t : Text} {depth : Nat}

theorem Label.exists_render (ht : validate t = .ok ()) (hdepth : t.length < depth)
    (columns : LabelColumns) (matcher : Matcher) (s : LabelScope) :
    ∃ out, (vocabulary columns matcher).render depth t s = .ok out := by
  have hv := failsOnly_vocabulary (E := fun _ => False) (I := fun _ => True) columns matcher
  exact (hv.render ht hdepth trivial).exists_ok

theorem ConfigEntry.exists_render (ht : validate t = .ok ()) (hdepth : t.length < depth)
    (s : ConfigScope) : ∃ out, vocabulary.render depth t s = .ok out := by
  have hv := failsOnly_vocabulary (E := fun _ => False) (I := fun _ => True)
  exact (hv.render ht hdepth trivial).exists_ok

theorem Issue.render_or_outsideList (ht : validate t = .ok ()) (hdepth : t.length < depth)
    (columns : IssueColumns) (matcher : Matcher) (s : IssueScope) :
    (∃ out, (vocabulary columns matcher).render depth t s = .ok out) ∨
      (vocabulary columns matcher).render depth t s =
        .error (.unresolved (.outsideList "label")) := by
  have hv : (vocabulary columns matcher).FailsOnly (· = .unresolved (.outsideList "label"))
      fun _ => True :=
    failsOnly_vocabulary columns matcher (fun _ _ _ => trivial) fun _ _ _ => rfl
  have hs := hv.render ht hdepth (s := s) trivial
  cases h : (vocabulary columns matcher).render depth t s with
  | ok out => exact .inl ⟨out, rfl⟩
  | error e => exact .inr (congrArg Except.error (hs e h))

theorem Issue.exists_render_of_label (ht : validate t = .ok ()) (hdepth : t.length < depth)
    (columns : IssueColumns) (matcher : Matcher) (i : Issue) (l : Label) :
    ∃ out, (vocabulary columns matcher).render depth t ⟨i, some l⟩ = .ok out := by
  have hv : (vocabulary columns matcher).FailsOnly (fun _ => False) (·.item.isSome) :=
    failsOnly_vocabulary columns matcher (fun _ _ _ => rfl) fun s hs hnone => by
      simp [hnone] at hs
  exact (hv.render ht hdepth rfl).exists_ok

theorem render_unless_label_outside_list (ht : validate t = .ok ()) (hdepth : t.length < depth) :
    (∀ columns matcher s, ∃ out, (Label.vocabulary columns matcher).render depth t s = .ok out) ∧
    (∀ s, ∃ out, ConfigEntry.vocabulary.render depth t s = .ok out) ∧
    ∀ columns matcher,
      (∀ s, (∃ out, (Issue.vocabulary columns matcher).render depth t s = .ok out) ∨
        (Issue.vocabulary columns matcher).render depth t s =
          .error (.unresolved (.outsideList "label"))) ∧
      ∀ issue label, ∃ out,
        (Issue.vocabulary columns matcher).render depth t ⟨issue, some label⟩ = .ok out :=
  ⟨Label.exists_render ht hdepth, ConfigEntry.exists_render ht hdepth, fun columns matcher =>
    ⟨Issue.render_or_outsideList ht hdepth columns matcher,
      Issue.exists_render_of_label ht hdepth columns matcher⟩⟩

end Valid

def labelsAround : Text :=
  "?labels\x7b@labels\x7b$label (@labels\x7b[auto:$label]@+\x7d)@, \x7d\x7d $label"

def labelledIssue : Issue :=
  ⟨7, "a", none, none, .opened, [⟨"x]", "ff0000"⟩, ⟨"y", "none"⟩]⟩

theorem render_labelsAround :
    validate labelsAround = .ok () ∧ labelsAround.length < 70 ∧
    (∃ out, (Label.vocabulary {} TerminalColor.nearest).render 70 labelsAround
      (.ofRecord ⟨"z", []⟩) = .ok out) ∧
    (∃ out, ConfigEntry.vocabulary.render 70 labelsAround (.ofRecord ⟨"k", "v"⟩) = .ok out) ∧
    (∃ out, (Issue.vocabulary {} TerminalColor.nearest).render 70 labelsAround
      ⟨labelledIssue, some ⟨"z", []⟩⟩ = .ok out) ∧
    (Issue.vocabulary {} TerminalColor.nearest).render 70 labelsAround (.ofRecord labelledIssue) =
      .error (.unresolved (.outsideList "label")) := by
  have hvalid : validate labelsAround = .ok () := by cbv
  have hlength : labelsAround.length < 70 := by decide
  obtain ⟨hlabels, hconfig, hissues⟩ := render_unless_label_outside_list hvalid hlength
  obtain ⟨-, hlabel⟩ := hissues {} TerminalColor.nearest
  exact ⟨hvalid, hlength, hlabels _ _ _, hconfig _, hlabel _ _, by decide +kernel⟩

end Listing
