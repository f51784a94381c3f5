import Listing.Proofs.Render.Printed
import Listing.Proofs.Vocabulary.Colors
import Listing.Proofs.Vocabulary.IssueFormat

namespace Listing

variable {p : Palette}

namespace Prints

theorem join {s : Separators} (hbetween : Unmarked s.between) (hlast : Unmarked s.last)
    {ts us : List Text} (h : List.Forall₂ (Prints p) ts us) :
    Prints p (s.join ts) (s.join us) := by
  induction h with
  | nil => exact nil
  | cons h hs ih =>
    cases hs with
    | nil => exact h
    | cons h' hs =>
      cases hs with
      | nil => exact (h.append (literal hlast)).append h'
      | cons h'' hs => exact (h.append (literal hbetween)).append ih

end Prints

namespace Joining

def separators (j : Joining) : Separators := ⟨j.between, j.last⟩

theorem ofArguments_written (item : Text) (j : Joining) :
    Separators.ofArguments (item :: j.written) = some (item, j.separators) := by
  cases j <;> rfl

theorem join_concat (s : Separators) (ts : List Text) (t : Text) :
    s.join (ts ++ [t]) = if ts = [] then t else s.between.intercalate ts ++ s.last ++ t := by
  induction ts with
  | nil => rfl
  | cons u ts ih =>
    cases ts with
    | nil => simp [Separators.join]
    | cons v ts =>
      obtain ⟨w, ws, hw⟩ := List.exists_cons_of_ne_nil (List.concat_ne_nil t ts)
      have hsplit : s.join (u :: v :: ts ++ [t]) = u ++ s.between ++ s.join (v :: ts ++ [t]) := by
        simp only [List.cons_append, hw]
        rfl
      rw [hsplit, ih, if_neg (List.cons_ne_nil v ts), if_neg (List.cons_ne_nil u _),
        List.intercalate_cons_cons]
      simp only [List.append_assoc]

theorem join_separators (j : Joining) (ts : List Text) : j.separators.join ts = j.join ts := by
  obtain rfl | ⟨us, t, rfl⟩ := List.eq_nil_or_concat ts
  · rfl
  · rw [List.concat_eq_append, join_concat, join]
    simp [separators]

end Joining

theorem IssueFormat.IsLiteral.unmarked {s : Text} (hs : IsLiteral s) : Unmarked s := by
  intro c hc
  have h := hs c hc
  simp_all [isMark]

variable {columns : IssueColumns} {matcher : Matcher} {i : Issue} {l : Option Label}

def Issue.answers (columns : IssueColumns) (matcher : Matcher) (depth : Nat) (i : Issue)
    (l : Option Label) : Answers :=
  (vocabulary columns matcher).answers depth ⟨i, l⟩

theorem IssueState.unmarked_name (s : IssueState) : Unmarked s.name := by
  cases s <;> decide

/-- Titles, bodies and names of labels are escaped; the other values have no marks. -/
theorem IssueValue.answer (hi : Unmarked i.assigneeText) (depth : Nat) {v : IssueValue}
    (hl : v = label → l.isSome) :
    ∃ t, (Issue.answers columns matcher depth i l).value v.name = .ok (some t) ∧
      Prints p t (v.text columns i l) := by
  have hnumber : Unmarked i.numberText := unmarked_decimal _
  cases v with
  | number => exact ⟨_, rfl, .literal hnumber⟩
  | numberRight => exact ⟨_, rfl, .literal (hnumber.alignRight _)⟩
  | numberLeft => exact ⟨_, rfl, .literal (hnumber.alignLeft _)⟩
  | assignee => exact ⟨_, rfl, .literal hi⟩
  | assigneeRight => exact ⟨_, rfl, .literal (hi.alignRight _)⟩
  | assigneeLeft => exact ⟨_, rfl, .literal (hi.alignLeft _)⟩
  | title => exact ⟨_, rfl, .escaped i.title⟩
  | description => exact ⟨_, rfl, .escaped (i.body.getD [])⟩
  | state => exact ⟨_, rfl, .literal i.state.unmarked_name⟩
  | label =>
    obtain ⟨l, rfl⟩ := Option.isSome_iff_exists.1 (hl rfl)
    exact ⟨_, rfl, .escaped l.name⟩

theorem IssueCondition.answer (depth : Nat) (k : IssueCondition) :
    (Issue.answers columns matcher depth i l).condition k.name =
      .ok (some (decide (k.Holds i))) := by
  cases k with
  | labelled =>
    change Except.ok (some (!i.labels.isEmpty)) = _
    cases h : i.labels <;> simp [Holds, h]
  | assigned =>
    change Except.ok (some i.assignee.isSome) = _
    cases h : i.assignee <;> simp [Holds, h]
  | described =>
    change Except.ok (some i.isDescribed) = _
    unfold Issue.isDescribed
    split <;> simp [Holds, *]
  | opened =>
    change Except.ok (some (i.state == .opened)) = _
    cases h : i.state <;> simp [Holds, h]
  | closed =>
    change Except.ok (some !(i.state == .opened)) = _
    cases h : i.state <;> simp [Holds, h]

theorem IssueFormat.exists_shade (hp : Settings.Sound p) (depth : Nat) {color : Text}
    (hcolor : IsShade p color) (body : Draft) :
    ∃ k, Draft.shade (Issue.answers columns matcher depth i l) color body = .ok k ∧
      IsColor p k := by
  apply Draft.exists_shade
  · intro hauto
    obtain rfl | ⟨hsome, hchars⟩ := hcolor
    · cases hauto
    · refine ⟨fun c hc hm => hchars c hc ?_, .inr hsome⟩
      have hsub : [':', '[', ']', '\\', '\n'] ⊆
          ['[', ']', '{', '}', ':', '@', '$', '\\', '\n'] := by decide
      exact hsub hm
  · exact color_answers (Issue.colors_vocabulary hp columns matcher ⟨i, l⟩) depth

namespace IssueFormat

theorem renderLabels_prints {item : Text} {j : Joining} (hj : ∀ s ∈ j.written, IsLiteral s)
    {render : Renderer IssueScope} {text : Label → Text}
    (h : ∀ l ∈ i.labels, ∃ t, render item ⟨i, some l⟩ = .ok t ∧ Prints p t (text l)) :
    ∃ t, Issue.renderLabels (item :: j.written) ⟨i, l⟩ render = .ok (some t) ∧
      Prints p t (j.join (i.labels.map text)) := by
  obtain ⟨ts, hts, hprints⟩ := exists_mapM h
  have hbetween : Unmarked j.between := by
    cases j with
    | spaced => decide
    | alike s | ending s last => exact (hj s List.mem_cons_self).unmarked
  have hlast : Unmarked j.last := by
    cases j with
    | spaced => decide
    | alike s => exact (hj s List.mem_cons_self).unmarked
    | ending s last => exact (hj last (List.mem_cons_of_mem _ List.mem_cons_self)).unmarked
  refine ⟨j.separators.join ts, ?_, ?_⟩
  · have hlist : render.list item (i.labels.map (Scope.focus ⟨i, l⟩)) j.separators =
        .ok (j.separators.join ts) := by
      rw [Renderer.list, List.mapM_map]
      exact congrArg (j.separators.join <$> ·) hts
    rw [Issue.renderLabels, Joining.ofArguments_written]
    simp only [hlist]
    rfl
  · rw [← Joining.join_separators]
    exact .join hbetween hlast hprints

/-- A format prints what it means, when calls may nest down to its innermost list. -/
theorem printsAs (hp : Settings.Sound p) (hi : Unmarked i.assigneeText) {f : IssueFormat}
    {inside : Bool} (hf : f.WellFormed p inside) {depth : Nat} (hdepth : f.nesting ≤ depth)
    (hl : inside = true → l.isSome) :
    f.draft.PrintsAs p (Issue.answers columns matcher depth i l) (f.plain columns i l) := by
  -- A list renders its item one level deeper and for each of its labels, so the induction is on the
  -- tree, for every depth that is left and every current label.
  induction f generalizing inside depth l with
  | done => exact .done
  | literal s rest ih => exact .literal hf.1.unmarked (ih hf.2 hdepth hl)
  | value v rest ih =>
    obtain ⟨t, ht, hprints⟩ := IssueValue.answer (p := p) hi depth fun hv => hl (hf.1 hv)
    exact .value ht hprints (ih hf.2.2 hdepth hl)
  | span color body rest ihbody ihrest =>
    have hmax := Nat.max_le.1 hdepth
    exact .span (exists_shade hp depth hf.1 body.draft) (ihbody hf.2.1 hmax.1 hl)
      (ihrest hf.2.2 hmax.2 hl)
  | condition k body rest ihbody ihrest =>
    have hmax := Nat.max_le.1 hdepth
    have h := Draft.PrintsAs.condition (IssueCondition.answer depth k) (ihbody hf.1 hmax.1 hl)
      (ihrest hf.2 hmax.2 hl)
    simpa only [draft, plain, decide_eq_true_eq] using h
  | labels item j rest ihitem ihrest =>
    have hmax := Nat.max_le.1 hdepth
    obtain ⟨d, rfl⟩ : ∃ d, depth = d + 1 := Nat.exists_eq_add_one_of_ne_zero (by omega)
    obtain ⟨t, ht, hprints⟩ := renderLabels_prints (p := p) (l := l) hf.2.1 fun l' _ => by
      obtain ⟨out, hout, hprints⟩ :=
        ihitem (l := some l') hf.1 (Nat.le_of_succ_le_succ hmax.1) fun _ => rfl
      exact ⟨out, hf.1.draft.render_print hout, hprints⟩
    refine .call ?_ hprints (ihrest hf.2.2 hmax.2 hl)
    rw [List.map_cons, map_print_written]
    exact ht

end IssueFormat

end Listing
