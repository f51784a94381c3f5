import Listing.Proofs.Render.Ending
import Listing.Proofs.Template.Turns
import Listing.Proofs.Vocabulary.Failing

namespace Listing

open Template Resolver

variable {C α : Type}

/-- A call that ends where rendering its arguments does. -/
def Callee.EndsWithArguments (f : Callee C) : Prop :=
  ∀ (r : Resolver C) (room : Nat) (args : List Text) (scope : C),
    (∀ a ∈ args, ∀ s, r.EndsWithin room .tooDeep fun render => render a s) →
    r.EndsWithin room .tooDeep fun render => f args scope render

theorem Resolver.EndsWithin.exists_render {r : Resolver C} {room : Nat} {t : Text} {scope : C}
    (h : r.EndsWithin room .tooDeep fun render => render t scope) :
    ∃ out, out ≠ .error .tooDeep ∧ ∀ depth, room ≤ depth → r.render depth t scope = out := by
  obtain ⟨out, hout, hruns⟩ := h
  refine ⟨out, hout, fun depth hdepth => ?_⟩
  rw [← renderOver_tooDeep]
  exact hruns _ depth hdepth

namespace Vocabulary

variable {v : Vocabulary C}

theorem endsWithin_call (hv : v.functions.All Callee.EndsWithArguments) {room : Nat}
    {args : List Text} (h : ∀ a ∈ args, ∀ s,
      v.resolver.EndsWithin room .tooDeep fun render => render a s) (name : Text) (scope : C) :
    v.resolver.EndsWithin room .tooDeep fun render => v.resolver.call name args scope render := by
  cases hf : v.functions.get? name with
  | none => simpa only [resolver, hf] using EndsWithin.ok none
  | some f => simpa only [resolver, hf] using hv name f hf v.resolver room args scope h

/-- Where functions render nothing but their arguments, the nesting of renderings is bounded by the
length of the outermost template. -/
theorem endsWithin_render (hv : v.functions.All Callee.EndsWithArguments) (t : Text) (scope : C) :
    v.resolver.EndsWithin (t.length + 1) .tooDeep fun render => render t scope := by
  -- An argument is not a part of the tree, so that the induction is on the length of the text.
  induction hlen : t.length using Nat.strongRecOn generalizing t scope with
  | ind n ih =>
    apply EndsWithin.render
    rintro ⟨name, args⟩ hcall
    apply endsWithin_call hv
    intro a ha s
    have hlt : a.length < n := hlen ▸ length_lt_of_mem_calls hcall ha
    exact (ih a.length hlt a s rfl).mono hlt

theorem ends_call (hv : v.functions.All Callee.EndsWithArguments) (name : Text) (args : List Text)
    (scope : C) : v.resolver.Ends fun render => v.resolver.call name args scope render := by
  have hargs : ∀ a ∈ args, a.length + 1 ≤ args.flatten.length + 1 := fun a ha =>
    Nat.succ_le_succ (List.sublist_flatten_of_mem ha).length_le
  exact ⟨_, endsWithin_call hv (fun a ha s => (endsWithin_render hv a s).mono (hargs a ha)) name
    scope⟩

end Vocabulary

namespace Issue

theorem endsWithArguments_renderLabels : Callee.EndsWithArguments renderLabels := by
  intro r room args s h
  cases hargs : Separators.ofArguments args with
  | none => simpa only [renderLabels, hargs] using EndsWithin.ok none
  | some p =>
    obtain ⟨item, separators⟩ := p
    have hitem : ∀ s' ∈ s.record.labels.map s.focus,
        r.EndsWithin room .tooDeep fun render => render item s' :=
      fun s' _ => h item (Separators.mem_of_ofArguments hargs) s'
    simpa only [renderLabels, hargs] using (EndsWithin.list hitem separators).map some

theorem functions_vocabulary (columns : IssueColumns) (matcher : Matcher) :
    (vocabulary columns matcher).functions.All Callee.EndsWithArguments :=
  (Dict.all_empty _).insert "labels" endsWithArguments_renderLabels

end Issue

/-- Each step of a traversal leaves less of its text, each body is shorter than the one around it,
and rendering ends when calls do. In templates for issues renderings nest no deeper than there are
characters in the template, and so no deeper than there are bytes in it. -/
theorem reading_and_rendering_end :
    (∀ t s u, Steps t s u → t = s ++ u ∧ 0 < s.size) ∧
    (∀ body before t x u y, Reaches body before t → Opens .everywhere t x u y →
      u.size < body.size) ∧
    (∀ bottom turns t, t.length < turns →
      (∀ pos, readOver bottom turns pos t = read pos t) ∧
      validateOver bottom turns t = validate t) ∧
    (∀ r : Resolver C, (∀ name args s, r.Ends fun render => r.call name args s render) →
      (∀ t s, r.Ends fun render => render t s) ∧
      ∀ item scopes separators, r.Ends fun render => render.list item scopes separators) ∧
    ∀ columns matcher t s,
      ((Issue.vocabulary columns matcher).resolver.EndsWithin (t.length + 1) .tooDeep
        fun render => render t s) ∧
      ∃ out, out ≠ .error .tooDeep ∧ ∀ depth, t.length < depth →
        (Issue.vocabulary columns matcher).render depth t s = out := by
  refine ⟨?steps, ?bodies, ?reading, ?rendering, ?issues⟩
  case steps => exact fun t s u h => ⟨h.eq_append, h.lt⟩
  case bodies => exact fun body before t x u y hreaches hopens => hopens.size_lt hreaches
  case reading => exact fun bottom turns t h => ⟨readOver_eq bottom h, validateOver_eq bottom h⟩
  case rendering => exact fun r hr => ⟨ends_render hr, ends_list hr⟩
  case issues =>
    intro columns matcher t s
    have hends := Vocabulary.endsWithin_render (Issue.functions_vocabulary columns matcher) t s
    exact ⟨hends, hends.exists_render⟩

theorem labelsAround_ends :
    (∃ s, Steps labelsAround s " $label" ∧ labelsAround = s ++ (" $label" : Text) ∧ 0 < s.size) ∧
    (∃ x u, Opens .everywhere labelsAround x u "\x7d $label" ∧ u.size < labelsAround.size) ∧
    labelsAround.length < 70 ∧ validateOver (fun _ _ => .done) 70 labelsAround = .ok () ∧
    (∀ scopes, (Issue.vocabulary {} TerminalColor.nearest).resolver.Ends fun render =>
      render.list labelsAround scopes (.same ", ")) ∧
    ∀ depth, 70 ≤ depth → (Issue.vocabulary {} TerminalColor.nearest).render depth labelsAround
      (.ofRecord labelledIssue) = .error (.unresolved (.outsideList "label")) := by
  obtain ⟨hsteps, hbodies, hreading, hrendering, hissues⟩ :=
    reading_and_rendering_end (C := IssueScope)
  have hlength : labelsAround.length < 70 := by decide
  have hvalid : validate labelsAround = .ok () := by cbv
  obtain ⟨p, hp, hrest⟩ : ∃ p, braced labelsAround.tail = .ok p ∧ p.rest = " $label" :=
    ⟨_, rfl, rfl⟩
  have hstep : Steps labelsAround _ p.rest := .block (by decide) hp
  have hopen : Opens .everywhere labelsAround _ p.body ('\x7d' :: p.rest) := .condition hp rfl
  rw [hrest] at hstep hopen
  refine ⟨⟨_, hstep, hsteps _ _ _ hstep⟩, ⟨_, _, hopen, hbodies _ _ _ _ _ _ .start hopen⟩, hlength,
    (hreading _ 70 _ hlength).2.trans hvalid, ?_, ?_⟩
  · intro scopes
    have hcalls := Vocabulary.ends_call (Issue.functions_vocabulary {} TerminalColor.nearest)
    exact (hrendering _ hcalls).2 labelsAround scopes _
  · intro depth hdepth
    obtain ⟨-, out, -, hout⟩ :=
      hissues {} TerminalColor.nearest labelsAround (.ofRecord labelledIssue)
    rw [hout depth (Nat.lt_of_lt_of_le hlength hdepth), ← hout 70 hlength]
    decide +kernel

end Listing
