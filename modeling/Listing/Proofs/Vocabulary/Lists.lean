import Listing.Proofs.Render.Appended
import Listing.Proofs.Vocabulary.Ending
import Listing.Proofs.Vocabulary.IssueMeaning

namespace Listing

open Template

/-- A list of the labels of an issue. Its body has the item and the separators. -/
def labelList (body : Text) : Text := '@' :: "labels" ++ '{' :: body ++ ['}']

namespace Issue

variable {columns : IssueColumns} {matcher : Matcher} {s : IssueScope} {j : Joining}
  {body item : Text} {depth : Nat}

theorem braced_labelList (hbody : Closed '{' '}' 0 body) (after : Text) :
    braced ("labels" ++ '{' :: body ++ '}' :: after) = .ok ⟨"labels", body, after⟩ :=
  braced_closed (by decide) hbody after

theorem steps_labelList (hbody : Closed '{' '}' 0 body) (after : Text) :
    Steps (labelList body ++ after) (labelList body) after := by
  have hstep := Steps.block (c := '@') (by decide) (braced_labelList hbody after)
  simpa [labelList] using hstep

theorem call_labels :
    ((vocabulary columns matcher).answers depth s).call "labels" (item :: j.written) = some <$>
      j.join <$> s.record.labels.mapM fun l =>
        (vocabulary columns matcher).render depth item (s.focus l) := by
  have hjoin : j.separators.join = j.join := funext j.join_separators
  change renderLabels (item :: j.written) s ((vocabulary columns matcher).render depth) = _
  rw [renderLabels, Joining.ofArguments_written]
  simp only [Renderer.list, List.mapM_map, hjoin]
  rfl

/-- A list renders its item for each label, one level deeper. -/
theorem render_labelList_succ (hbody : Closed '{' '}' 0 body)
    (hargs : Template.arguments body = item :: j.written) :
    (vocabulary columns matcher).render (depth + 1) (labelList body) s =
      j.join <$> s.record.labels.mapM fun l =>
        (vocabulary columns matcher).render depth item (s.focus l) := by
  have hread := read_call 0 (braced_labelList hbody [])
  rw [hargs, read_nil] at hread
  change ((read 0 (labelList body)).fill ((vocabulary columns matcher).answers depth s)).mapError
    (Interrupt.within (labelList body)) = _
  have hlist : labelList body = '@' :: ("labels" ++ '{' :: body ++ '}' :: []) := rfl
  rw [hlist, hread, fill, call_labels]
  cases s.record.labels.mapM fun l =>
    (vocabulary columns matcher).render depth item (s.focus l) with
  | error e => rfl
  | ok ts => exact congrArg Except.ok (List.append_nil (j.join ts))

theorem render_item (hargs : Template.arguments body = item :: j.written)
    (hdepth : (labelList body).length ≤ depth) (s : IssueScope) :
    (vocabulary columns matcher).render (depth + 1) item s =
      (vocabulary columns matcher).render depth item s := by
  have hlength : item.length ≤ body.length :=
    length_le_of_mem_arguments (by rw [hargs]; exact List.mem_cons_self)
  have hlt : item.length + 1 ≤ depth := by
    simp only [labelList, List.length_append, List.length_cons] at hdepth
    omega
  have hends := Vocabulary.endsWithin_render (functions_vocabulary columns matcher) item s
  obtain ⟨out, -, hout⟩ := hends.exists_render
  exact (hout (depth + 1) (Nat.le_succ_of_le hlt)).trans (hout depth hlt).symm

theorem render_labelList (hbody : Closed '{' '}' 0 body)
    (hargs : Template.arguments body = item :: j.written)
    (hdepth : (labelList body).length < depth) :
    (vocabulary columns matcher).render depth (labelList body) s =
      j.join <$> s.record.labels.mapM fun l =>
        (vocabulary columns matcher).render depth item (s.focus l) := by
  obtain ⟨depth, rfl⟩ := Nat.exists_eq_add_one_of_ne_zero (Nat.ne_zero_of_lt hdepth)
  simp only [render_labelList_succ hbody hargs, render_item hargs (Nat.le_of_lt_succ hdepth)]

section Lists

variable (hbody : Closed '{' '}' 0 body) (hargs : Template.arguments body = item :: j.written)
  (hdepth : (labelList body).length < depth)

include hbody hargs hdepth

theorem exists_render_labelList_eq_error_iff :
    (∃ e, (vocabulary columns matcher).render depth (labelList body) s = .error e) ↔
      ∃ l ∈ s.record.labels, ∃ e,
        (vocabulary columns matcher).render depth item (s.focus l) = .error e := by
  simp only [render_labelList hbody hargs hdepth, map_eq_error_iff, exists_mapM_eq_error_iff]

theorem render_labelList_eq_error_iff {e : RenderError} :
    (vocabulary columns matcher).render depth (labelList body) s = .error e ↔
      ∃ before l after, s.record.labels = before ++ l :: after ∧
        (∀ x ∈ before, ∃ t, (vocabulary columns matcher).render depth item (s.focus x) = .ok t) ∧
        (vocabulary columns matcher).render depth item (s.focus l) = .error e := by
  rw [render_labelList hbody hargs hdepth, map_eq_error_iff, mapM_eq_error_iff]

theorem render_labelList_eq_ok_iff {out : Text} :
    (vocabulary columns matcher).render depth (labelList body) s = .ok out ↔
      ∃ ts, List.Forall₂ (fun l t =>
        (vocabulary columns matcher).render depth item (s.focus l) = .ok t) s.record.labels ts ∧
          out = j.join ts := by
  rw [render_labelList hbody hargs hdepth]
  simp only [← mapM_eq_ok_iff]
  constructor
  · intro h
    obtain ⟨ts, hts, hout⟩ := map_eq_ok h
    exact ⟨ts, hts, hout.symm⟩
  · rintro ⟨ts, hts, rfl⟩
    rw [hts]
    rfl

theorem render_labelList_focus (l : Label) :
    (vocabulary columns matcher).render depth (labelList body) (s.focus l) =
      (vocabulary columns matcher).render depth (labelList body) s := by
  rw [render_labelList hbody hargs hdepth, render_labelList hbody hargs hdepth]
  rfl

theorem render_around_labelList {l : Label} {outer before after out : Text}
    (h : Reaches outer before (labelList body ++ after)) :
    (vocabulary columns matcher).render depth outer (s.focus l) = .ok out ↔
      ∃ a b c, (vocabulary columns matcher).render depth before (s.focus l) = .ok a ∧
        (vocabulary columns matcher).render depth (labelList body) s = .ok b ∧
        (vocabulary columns matcher).render depth after (s.focus l) = .ok c ∧
        out = a ++ b ++ c := by
  have hlist : Reaches (labelList body ++ after) (labelList body) after := by
    simpa using Reaches.start.step (steps_labelList hbody after)
  rw [← render_labelList_focus hbody hargs hdepth l]
  constructor
  · intro hout
    obtain ⟨a, y, ha, hy, rfl⟩ := h.render_eq_ok_iff.1 hout
    obtain ⟨b, c, hb, hc, rfl⟩ := hlist.render_eq_ok_iff.1 hy
    exact ⟨a, b, c, ha, hb, hc, (List.append_assoc a b c).symm⟩
  · rintro ⟨a, b, c, ha, hb, hc, rfl⟩
    have hy := hlist.render_eq_ok_iff.2 ⟨b, c, hb, hc, rfl⟩
    exact h.render_eq_ok_iff.2 ⟨a, b ++ c, ha, hy, List.append_assoc a b c⟩

end Lists

/-- All queries for the label at hand get its name, also behind lists. -/
theorem label_of_mem_notes {l : Label} {outer : Text} {answer : Option Text}
    (h : .value "label" answer ∈
      ((vocabulary columns matcher).resolver.run depth outer (s.focus l)).notes) :
    answer = some (escape l.name) := by
  have hanswer := (vocabulary columns matcher).resolver.all_run depth outer (s.focus l) _ h
  have hlabel : ((vocabulary columns matcher).answers depth (s.focus l)).value "label" =
    .ok (some (escape l.name)) := rfl
  exact Except.ok.inj (hanswer.symm.trans hlabel)

/-- A list fails exactly when its item fails for some label, with the error for the first of these,
and otherwise joins what its item renders to for each label. The label at hand makes no difference
to it, nor does it to what stands around it, where the label at hand is the same everywhere. -/
theorem labelList_renders_each (hbody : Closed '{' '}' 0 body)
    (hargs : Template.arguments body = item :: j.written) (columns : IssueColumns)
    (matcher : Matcher) (s : IssueScope) (hdepth : (labelList body).length < depth) :
    let render := (vocabulary columns matcher).render depth
    ((∃ e, render (labelList body) s = .error e) ↔
      ∃ l ∈ s.record.labels, ∃ e, render item (s.focus l) = .error e) ∧
    (∀ e, render (labelList body) s = .error e ↔
      ∃ before l after, s.record.labels = before ++ l :: after ∧
        (∀ x ∈ before, ∃ t, render item (s.focus x) = .ok t) ∧ render item (s.focus l) = .error e) ∧
    (∀ out, render (labelList body) s = .ok out ↔
      ∃ ts, List.Forall₂ (fun l t => render item (s.focus l) = .ok t) s.record.labels ts ∧
        out = j.join ts) ∧
    ∀ l, render (labelList body) (s.focus l) = render (labelList body) s ∧
      (∀ outer before after, Reaches outer before (labelList body ++ after) → ∀ out,
        (render outer (s.focus l) = .ok out ↔ ∃ a b c, render before (s.focus l) = .ok a ∧
          render (labelList body) s = .ok b ∧ render after (s.focus l) = .ok c ∧
          out = a ++ b ++ c)) ∧
      ∀ outer answer, .value "label" answer ∈
        ((vocabulary columns matcher).resolver.run depth outer (s.focus l)).notes →
        answer = some (escape l.name) := by
  refine ⟨?fails, ?error, ?joins, fun l => ⟨?again, ?around, ?label⟩⟩
  case fails => exact exists_render_labelList_eq_error_iff hbody hargs hdepth
  case error => exact fun e => render_labelList_eq_error_iff hbody hargs hdepth
  case joins => exact fun out => render_labelList_eq_ok_iff hbody hargs hdepth
  case again => exact render_labelList_focus hbody hargs hdepth l
  case around =>
    exact fun outer before after h out => render_around_labelList hbody hargs hdepth h
  case label => exact fun outer answer h => label_of_mem_notes h

def nestedItem : Text := "$label (@labels\x7b$label@+\x7d) $label "

def thriceLabelled : Issue :=
  { labelledIssue with labels := [⟨"a", "f00"⟩, ⟨"b", "none"⟩, ⟨"c]", "0f0"⟩] }

theorem render_nested_lists :
    Closed '{' '}' 0 (nestedItem ++ "@, @& ") ∧
    Template.arguments (nestedItem ++ "@, @& ") =
      nestedItem :: (Joining.ending ", " "& ").written ∧
    (labelList (nestedItem ++ "@, @& ")).length < 70 ∧
    ∀ l, (vocabulary {} TerminalColor.nearest).render 70 (labelList (nestedItem ++ "@, @& "))
      ⟨thriceLabelled, some l⟩ = .ok
        "a (a+b+c\\]) a , b (a+b+c\\]) b & c\\] (a+b+c\\]) c\\] " := by
  have hbody : Closed '{' '}' 0 (nestedItem ++ "@, @& ") :=
    (closed_of_braced (t := '{' :: nestedItem ++ "@, @& \x7d")
      (p := ⟨[], nestedItem ++ "@, @& ", []⟩) rfl).1
  have hargs : Template.arguments (nestedItem ++ "@, @& ") =
      nestedItem :: (Joining.ending ", " "& ").written := by cbv
  have hdepth : (labelList (nestedItem ++ "@, @& ")).length < 70 := by decide
  obtain ⟨-, -, hjoins, hscopes⟩ :=
    labelList_renders_each hbody hargs {} TerminalColor.nearest (.ofRecord thriceLabelled) hdepth
  refine ⟨hbody, hargs, hdepth, fun l => (hscopes l).1.trans ((hjoins _).2 ?_)⟩
  refine ⟨["a (a+b+c\\]) a ", "b (a+b+c\\]) b ", "c\\] (a+b+c\\]) c\\] "], ?_, by decide⟩
  exact .cons (by decide +kernel) (.cons (by decide +kernel) (.cons (by decide +kernel) .nil))

end Issue

end Listing
