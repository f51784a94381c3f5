import Listing.Proofs.Outcome
import Listing.Proofs.Template.Reading
import Listing.Render.Resolver

namespace Listing

open Template

variable {C ε ε' α β : Type}

namespace Template

def calls : Template → List (Text × List Text)
  | done => []
  | broken _ => []
  | literal _ rest => rest.calls
  | value _ rest => rest.calls
  | span _ _ body rest => body.calls ++ rest.calls
  | condition _ body rest => body.calls ++ rest.calls
  | call name args _ rest => (name, args) :: rest.calls

theorem length_lt_of_mem_calls {t name a : Text} {args : List Text} {pos : Nat}
    (h : (name, args) ∈ (read pos t).calls) (ha : a ∈ args) : a.length < t.length := by
  induction t using readInduction generalizing pos with
  | nil =>
    rw [read_nil] at h
    cases h
  | spanBroken t fault hp =>
    rw [read_span_broken pos hp] at h
    cases h
  | span t p hp ihb ihr =>
    have hb := length_body_bracketed hp
    have hr := length_rest_bracketed hp
    rw [read_span pos hp] at h
    rw [List.length_cons]
    rcases List.mem_append.1 h with h | h
    · have := ihb h
      omega
    · have := ihr h
      omega
  | conditionBroken t fault hp =>
    rw [read_condition_broken pos hp] at h
    cases h
  | condition t p hp ihb ihr =>
    have hb := length_body_braced hp
    have hr := length_rest_braced hp
    rw [read_condition pos hp] at h
    rw [List.length_cons]
    rcases List.mem_append.1 h with h | h
    · have := ihb h
      omega
    · have := ihr h
      omega
  | callBroken t fault hp =>
    rw [read_call_broken pos hp] at h
    cases h
  | call t p hp _ ihr =>
    have hb := length_body_braced hp
    have hr := length_rest_braced hp
    rw [read_call pos hp] at h
    rw [List.length_cons]
    rcases List.mem_cons.1 h with h | h
    · obtain ⟨rfl, rfl⟩ := Prod.mk.inj h
      have := length_le_of_mem_arguments ha
      omega
    · have := ihr h
      omega
  | value t hname ih =>
    rw [read_value pos hname] at h
    have := ih h
    rw [List.length_drop] at this
    rw [List.length_cons]
    omega
  | dollar t hname ih =>
    rw [read_dollar pos hname] at h
    exact Nat.lt_succ_of_lt (ih h)
  | literal c t hc ih =>
    rw [read_literal pos hc] at h
    exact Nat.lt_succ_of_lt (ih h)

end Template

namespace Resolver

/-- Renders a template, where calls that render their arguments may nest to the given depth. What is
nested deeper is rendered by `bottom`. -/
def renderOver (r : Resolver C) (bottom : Renderer C) : Nat → Renderer C
  | 0 => bottom
  | depth + 1 => fun template scope =>
    ((ofText template).fill (r.answers (r.renderOver bottom depth) scope)).mapError
      (Interrupt.within template)

theorem renderOver_tooDeep (r : Resolver C) (depth : Nat) :
    r.renderOver (fun _ _ => .error .tooDeep) depth = r.render depth := by
  induction depth with
  | zero => rfl
  | succ depth ih =>
    funext template scope
    rw [renderOver, ih, render_succ]

/-- What is done with a renderer comes to an end, other than for lack of room, when renderings may
nest so deep. What would come out of deeper ones does not matter. -/
def EndsWithin (r : Resolver C) (room : Nat) (lack : ε) (run : Renderer C → Except ε α) : Prop :=
  ∃ out, out ≠ .error lack ∧ ∀ bottom depth, room ≤ depth → run (r.renderOver bottom depth) = out

def Ends (r : Resolver C) (run : Renderer C → Except RenderError α) : Prop :=
  ∃ room, r.EndsWithin room .tooDeep run

namespace EndsWithin

variable {r : Resolver C} {room room' : Nat} {lack : ε} {run : Renderer C → Except ε α}

theorem mono (h : r.EndsWithin room lack run) (hroom : room ≤ room') :
    r.EndsWithin room' lack run := by
  obtain ⟨out, hout, hruns⟩ := h
  exact ⟨out, hout, fun bottom depth hdepth => hruns bottom depth (Nat.le_trans hroom hdepth)⟩

theorem const {x : Except ε α} (h : x ≠ .error lack) : r.EndsWithin room lack fun _ => x :=
  ⟨x, h, fun _ _ _ => rfl⟩

theorem ok (a : α) : r.EndsWithin room lack fun _ => .ok a := const nofun

theorem bind {f : Renderer C → α → Except ε β} (h : r.EndsWithin room lack run)
    (hf : ∀ a, r.EndsWithin room lack fun render => f render a) :
    r.EndsWithin room lack fun render => run render >>= f render := by
  obtain ⟨out, hout, hruns⟩ := h
  cases out with
  | error e =>
    refine ⟨.error e, fun he => hout (congrArg Except.error (Except.error.inj he)), ?_⟩
    intro bottom depth hdepth
    simp only [hruns bottom depth hdepth]
    rfl
  | ok a =>
    obtain ⟨out, hout', hruns'⟩ := hf a
    refine ⟨out, hout', fun bottom depth hdepth => ?_⟩
    simp only [hruns bottom depth hdepth]
    exact hruns' bottom depth hdepth

theorem map (h : r.EndsWithin room lack run) (f : α → β) :
    r.EndsWithin room lack fun render => f <$> run render := by
  obtain ⟨out, hout, hruns⟩ := h
  refine ⟨f <$> out, fun he => hout (map_eq_error he), fun bottom depth hdepth => ?_⟩
  exact congrArg (f <$> ·) (hruns bottom depth hdepth)

theorem mapError {lack' : ε'} (h : r.EndsWithin room lack run) {g : ε → ε'}
    (hg : ∀ e, g e = lack' → e = lack) :
    r.EndsWithin room lack' fun render => (run render).mapError g := by
  obtain ⟨out, hout, hruns⟩ := h
  refine ⟨out.mapError g, fun he => ?_, fun bottom depth hdepth => ?_⟩
  · obtain ⟨e, rfl, hlack⟩ := mapError_eq_error_iff.1 he
    exact hout (congrArg Except.error (hg e hlack.symm))
  · exact congrArg (Except.mapError g) (hruns bottom depth hdepth)

theorem mapM {f : Renderer C → β → Except ε α} {xs : List β}
    (h : ∀ x ∈ xs, r.EndsWithin room lack fun render => f render x) :
    r.EndsWithin room lack fun render => xs.mapM (f render) := by
  induction xs with
  | nil => exact ok []
  | cons x xs ih =>
    simp only [List.mapM_cons]
    apply (h x List.mem_cons_self).bind
    intro a
    apply (ih fun y hy => h y (List.mem_cons_of_mem x hy)).bind
    intro as
    exact ok (a :: as)

theorem list {item : Text} {scopes : List C}
    (h : ∀ s ∈ scopes, r.EndsWithin room .tooDeep fun render => render item s)
    (separators : Separators) :
    r.EndsWithin room .tooDeep fun render => render.list item scopes separators :=
  (mapM h).map separators.join

theorem exists_forall {run : β → Renderer C → Except ε α} {xs : List β}
    (h : ∀ x ∈ xs, ∃ room, r.EndsWithin room lack (run x)) :
    ∃ room, ∀ x ∈ xs, r.EndsWithin room lack (run x) := by
  induction xs with
  | nil => exact ⟨0, nofun⟩
  | cons x xs ih =>
    obtain ⟨room, hx⟩ := h x List.mem_cons_self
    obtain ⟨room', hxs⟩ := ih fun y hy => h y (List.mem_cons_of_mem x hy)
    refine ⟨max room room', List.forall_mem_cons.2 ⟨?_, ?_⟩⟩
    · exact hx.mono (Nat.le_max_left room room')
    · intro y hy
      exact (hxs y hy).mono (Nat.le_max_right room room')

variable {scope : C}

theorem ask {answer : Except ResolveError α} :
    r.EndsWithin room (.failed .tooDeep) fun _ => Template.ask answer := by
  apply const
  intro h
  obtain ⟨e, -, he⟩ := mapError_eq_error_iff.1 h
  cases he

theorem spanColor (color : Text) (subject : Option Text) :
    r.EndsWithin room (.failed .tooDeep) fun render =>
      Template.spanColor (r.answers render scope) color subject := by
  by_cases hauto : Text.agrees color "auto"
  · cases subject with
    | none =>
      simp only [Template.spanColor, hauto, ↓reduceIte]
      exact ok []
    | some name =>
      simp only [Template.spanColor, hauto, ↓reduceIte]
      exact ask.map _
  · simp only [Template.spanColor, hauto]
    exact ok color

theorem fill {t : Template}
    (h : ∀ q ∈ t.calls, r.EndsWithin room .tooDeep fun render => r.call q.1 q.2 scope render) :
    r.EndsWithin room (.failed .tooDeep) fun render => t.fill (r.answers render scope) := by
  induction t with
  | done => exact ok []
  | broken d => exact const nofun
  | literal c rest ih => exact (ih h).map _
  | value name rest ih =>
    apply ask.bind
    intro answer
    apply (ih h).bind
    intro out
    exact ok _
  | span color subject body rest ihb ihr =>
    obtain ⟨hbody, hrest⟩ := List.forall_mem_append.1 h
    apply (spanColor color subject).bind
    intro color
    apply (ihb hbody).bind
    intro inner
    apply (ihr hrest).bind
    intro out
    exact ok _
  | condition key body rest ihb ihr =>
    obtain ⟨hbody, hrest⟩ := List.forall_mem_append.1 h
    apply ask.bind
    intro answer
    match answer with
    | none | some true =>
      apply (ihb hbody).bind
      intro inner
      apply (ihr hrest).bind
      intro out
      exact ok _
    | some false => exact ihr hrest
  | call name args flaw rest ih =>
    obtain ⟨hcall, hrest⟩ := List.forall_mem_cons.1 h
    apply (hcall.mapError fun e he => Interrupt.failed.inj he).bind
    intro answer
    apply (ih hrest).bind
    intro out
    exact ok _

/-- Rendering a template takes room for one more rendering than its calls do. -/
theorem render {t : Text}
    (h : ∀ q ∈ (ofText t).calls,
      r.EndsWithin room .tooDeep fun render => r.call q.1 q.2 scope render) :
    r.EndsWithin (room + 1) .tooDeep fun render => render t scope := by
  have hlack : ∀ i : Interrupt, i.within t = .tooDeep → i = .failed .tooDeep := by
    intro i hi
    cases i with
    | broken d => cases hi
    | failed e => exact congrArg Interrupt.failed hi
  obtain ⟨out, hout, hruns⟩ := (fill h).mapError hlack
  refine ⟨out, hout, fun bottom depth hdepth => ?_⟩
  obtain ⟨depth, rfl⟩ := Nat.exists_eq_add_of_le' (Nat.le_of_add_left_le hdepth)
  exact hruns bottom depth (Nat.le_of_succ_le_succ hdepth)

end EndsWithin

section Ends

variable {r : Resolver C} {t : Text} {scope : C}

theorem ends_render_of_calls
    (h : ∀ q ∈ (ofText t).calls, r.Ends fun render => r.call q.1 q.2 scope render) :
    r.Ends fun render => render t scope := by
  obtain ⟨room, hroom⟩ := EndsWithin.exists_forall h
  exact ⟨room + 1, .render hroom⟩

/-- When all calls end, then so do all renderings. -/
theorem ends_render (h : ∀ name args s, r.Ends fun render => r.call name args s render) (t : Text)
    (scope : C) : r.Ends fun render => render t scope :=
  ends_render_of_calls fun q _ => h q.1 q.2 scope

theorem ends_list (h : ∀ name args s, r.Ends fun render => r.call name args s render)
    (item : Text) (scopes : List C) (separators : Separators) :
    r.Ends fun render => render.list item scopes separators := by
  obtain ⟨room, hroom⟩ := EndsWithin.exists_forall fun s (_ : s ∈ scopes) => ends_render h item s
  exact ⟨room, .list hroom separators⟩

end Ends

end Resolver

end Listing
