import Listing.Proofs.Outcome
import Listing.Proofs.Paint.Runs

namespace Listing

namespace Span

/-- The color that a name gives, which is none for the empty name. -/
def tint (p : Palette) (name : Text) : Option TerminalColor :=
  if name = [] then none else p.color? name

theorem spanColor_eq_ok_iff {p : Palette} {name : Text} {offset : Nat} {k : Option TerminalColor} :
    Stroke.spanColor p name offset = .ok k ↔
      k = tint p name ∧ (name ≠ [] → (p.color? name).isSome) := by
  unfold Stroke.spanColor tint
  by_cases hname : name = []
  · rw [if_pos hname, if_pos hname]
    constructor
    · intro h
      cases h
      exact ⟨rfl, fun hne => absurd hname hne⟩
    · rintro ⟨rfl, _⟩
      rfl
  · rw [if_neg hname, if_neg hname]
    cases p.color? name with
    | none => simp [hname]
    | some c =>
      constructor
      · intro h
        cases h
        exact ⟨rfl, fun _ => rfl⟩
      · rintro ⟨rfl, _⟩
        rfl

/-- The stack of painting holds the colors of those brackets on the stack of matching that will be
closed. They are the innermost ones, and all their names have a color. -/
structure Follows (p : Palette) (ts : List Token) (n : Nat) (stack : List (Text × Nat))
    (colors : List (Option TerminalColor)) : Prop where
  colors_eq : colors = (stack.take (closed ts)).map fun e => tint p e.1
  resolved : ∀ e ∈ stack.take (closed ts), e.1 ≠ [] → (p.color? e.1).isSome
  sorted : stack.Pairwise fun a b => b.2 < a.2
  below : ∀ e ∈ stack, e.2 < n

section Follows

variable {p : Palette} {ts : List Token} {n : Nat} {stack : List (Text × Nat)}
  {colors : List (Option TerminalColor)} {name : Text} {offset : Nat}

theorem follows_nil (p : Palette) (ts : List Token) (n : Nat) : Follows p ts n [] [] := by
  constructor <;> simp

theorem Follows.skip {tok : Token} (h : Follows p (tok :: ts) n stack colors)
    (hclosed : closed (tok :: ts) = closed ts) : Follows p ts (n + 1) stack colors := by
  obtain ⟨hc, hr, hs, hb⟩ := h
  rw [hclosed] at hc hr
  exact ⟨hc, hr, hs, fun e he => Nat.lt_succ_of_lt (hb e he)⟩

theorem Follows.push (h : Follows p (.opening name offset :: ts) n stack colors) :
    ((name, n) :: stack).Pairwise (fun a b => b.2 < a.2) ∧
      ∀ e ∈ (name, n) :: stack, e.2 < n + 1 := by
  constructor
  · exact List.pairwise_cons.2 ⟨h.below, h.sorted⟩
  · intro e he
    obtain rfl | he := List.mem_cons.1 he
    · exact Nat.lt_succ_self n
    · exact Nat.lt_succ_of_lt (h.below e he)

theorem Follows.enter (h : Follows p (.opening name offset :: ts) n stack colors)
    (hclosed : 0 < closed ts) {k : Option TerminalColor}
    (hk : Stroke.spanColor p name offset = .ok k) :
    Follows p ts (n + 1) ((name, n) :: stack) (k :: colors) := by
  obtain ⟨j, hj⟩ : ∃ j, closed ts = j + 1 := ⟨closed ts - 1, by omega⟩
  have hprev : closed (.opening name offset :: ts) = j := by rw [closed, hj, Nat.add_sub_cancel]
  obtain ⟨htint, hsome⟩ := spanColor_eq_ok_iff.1 hk
  obtain ⟨hsorted, hbelow⟩ := h.push
  obtain ⟨hc, hr, _, _⟩ := h
  rw [hprev] at hc hr
  refine ⟨?_, ?_, hsorted, hbelow⟩
  · rw [hj, List.take_succ_cons, List.map_cons, ← hc, htint]
  · rw [hj, List.take_succ_cons]
    intro e he
    obtain rfl | he := List.mem_cons.1 he
    · exact hsome
    · exact hr e he

/-- Below a bracket that is never closed nothing is closed either. -/
theorem Follows.literal (h : Follows p (.opening name offset :: ts) n stack colors)
    (hclosed : closed ts = 0) : Follows p ts (n + 1) ((name, n) :: stack) colors := by
  have hcolors : colors = [] := by
    rw [h.colors_eq, closed, hclosed]
    simp
  obtain ⟨hsorted, hbelow⟩ := h.push
  exact ⟨by simp [hclosed, hcolors], by simp [hclosed], hsorted, hbelow⟩

theorem Follows.leave {k : Option TerminalColor}
    (h : Follows p (.closing :: ts) n stack (k :: colors)) :
    ∃ e stack', stack = e :: stack' ∧ e.2 < n ∧ (e.1 ≠ [] → (p.color? e.1).isSome) ∧
      Follows p ts (n + 1) stack' colors := by
  obtain ⟨hc, hr, hs, hb⟩ := h
  cases stack with
  | nil => simp at hc
  | cons e stack' =>
    rw [closed, List.take_succ_cons] at hc hr
    rw [List.map_cons, List.cons.injEq] at hc
    exact ⟨e, stack', rfl, hb e (by simp), hr e (by simp), hc.2,
      fun x hx => hr x (List.mem_cons_of_mem _ hx), (List.pairwise_cons.1 hs).2,
      fun x hx => Nat.lt_succ_of_lt (hb x (List.mem_cons_of_mem _ hx))⟩

theorem Follows.stray (h : Follows p (.closing :: ts) n stack []) : stack = [] := by
  cases stack with
  | nil => rfl
  | cons e stack' =>
    have hc := h.colors_eq
    simp [closed] at hc

theorem Follows.color_eq (h : Follows p ts n stack colors) :
    ((stack.take (closed ts)).find? fun e => decide (e.1 ≠ [])).bind (fun e => p.color? e.1) =
      colors.findSome? id := by
  have hr := h.resolved
  rw [h.colors_eq]
  generalize stack.take (closed ts) = es at hr ⊢
  induction es with
  | nil => rfl
  | cons e es ih =>
    have hes := ih fun x hx => hr x (List.mem_cons_of_mem _ hx)
    by_cases hname : e.1 = []
    · rw [List.find?_cons_of_neg (by simpa using hname), hes]
      simp [tint, hname]
    · obtain ⟨c, hc⟩ := Option.isSome_iff_exists.1 (hr e (by simp) hname)
      rw [List.find?_cons_of_pos (by simpa using hname)]
      simp [tint, hname, hc]

theorem Follows.colorAt_append (h : Follows p ts n stack colors) {old : List Span}
    (hold : ∀ s ∈ old, s.stop < n) (hstop : ∀ s ∈ matching stack n ts, n < s.stop) :
    colorAt p (old ++ matching stack n ts) n = colors.findSome? id := by
  have hlt : ∀ e ∈ stack.take (closed ts), e.2 < n := fun e he =>
    h.below e (List.mem_of_mem_take he)
  have hpast : (old.filter fun s => decide (s.start < n ∧ n < s.stop)) = [] := by
    apply List.filter_eq_nil_iff.2
    intro s hs
    have := hold s hs
    simp only [decide_eq_true_eq]
    omega
  have hnow : ((matching stack n ts).filter fun s => decide (s.start < n ∧ n < s.stop)) =
      (matching stack n ts).filter fun s => decide (s.start < n) := by
    apply List.filter_congr
    intro s hs
    simp [hstop s hs]
  have hspans : ((old ++ matching stack n ts).filter fun s => decide (s.start < n ∧ n < s.stop)).map
      (fun s => (s.name, s.start)) = stack.take (closed ts) := by
    rw [List.filter_append, hpast, List.nil_append, hnow, filter_matching (Nat.le_refl n),
      List.filter_eq_self]
    simpa using hlt
  rw [colorAt_eq hspans (h.sorted.sublist (List.take_sublist _ _)), h.color_eq]

end Follows

section Visible

variable {stack : List (Text × Nat)} {n : Nat} {ts : List Token} {old : List Span} {name : Text}

theorem exists_paired (name : Text) (n : Nat) (stack : List (Text × Nat))
    (hclosed : 0 < closed ts) :
    ∃ s ∈ matching ((name, n) :: stack) (n + 1) ts, s.name = name ∧ s.start = n := by
  obtain ⟨j, hj⟩ : ∃ j, closed ts = j + 1 := ⟨closed ts - 1, by omega⟩
  have hfilter := filter_matching (Nat.le_refl (n + 1)) ((name, n) :: stack) ts
  have hmem : (name, n) ∈ ((matching ((name, n) :: stack) (n + 1) ts).filter
      fun s => decide (s.start < n + 1)).map fun s => (s.name, s.start) := by
    rw [hfilter, hj, List.take_succ_cons, List.filter_cons_of_pos (by simp)]
    exact List.mem_cons_self
  obtain ⟨s, hs, hstart⟩ := List.mem_map.1 hmem
  exact ⟨s, List.mem_of_mem_filter hs, congrArg Prod.fst hstart, congrArg Prod.snd hstart⟩

theorem visible_paired (offset : Nat) (hclosed : 0 < closed ts) :
    visible (old ++ matching stack n (.opening name offset :: ts)) n (.opening name offset) =
      [] := by
  obtain ⟨s, hs, _, hstart⟩ := exists_paired name n stack hclosed
  exact if_pos ⟨s, List.mem_append_right _ hs, hstart⟩

theorem visible_unpaired (offset : Nat) (hclosed : closed ts = 0)
    (hold : ∀ s ∈ old, s.start < n ∧ s.stop < n) :
    visible (old ++ matching stack n (.opening name offset :: ts)) n (.opening name offset) =
      (Token.opening name offset).raw := by
  apply if_neg
  rintro ⟨s, hs, hstart⟩
  obtain hs | hs := List.mem_append.1 hs
  · exact absurd hstart (Nat.ne_of_lt (hold s hs).1)
  · have hfilter := filter_matching (Nat.le_refl (n + 1)) ((name, n) :: stack) ts
    rw [hclosed, List.take_zero, List.filter_nil, List.map_eq_nil_iff,
      List.filter_eq_nil_iff] at hfilter
    exact hfilter s hs (by simp [hstart])

theorem visible_partner {e : Text × Nat} :
    visible (old ++ matching (e :: stack) n (.closing :: ts)) n .closing = [] :=
  if_pos ⟨⟨e.1, e.2, n⟩, by simp [matching], rfl⟩

theorem visible_stray (hold : ∀ s ∈ old, s.start < n ∧ s.stop < n) :
    visible (old ++ matching [] n (.closing :: ts)) n .closing = [']'] := by
  apply if_neg
  rintro ⟨s, hs, hstop⟩
  obtain hs | hs := List.mem_append.1 hs
  · exact absurd hstop (Nat.ne_of_lt (hold s hs).2)
  · have hle : n + 1 ≤ s.stop := le_stop hs
    omega

end Visible

end Span

namespace Stroke

def seen (k : Option TerminalColor) (ss : List Stroke) : Shown := (pieces k ss).reduceOption

theorem seen_mark (k : Option TerminalColor) (c : Char) (raw : Text) (ss : List Stroke) :
    seen k (mark c raw :: ss) = (c, k) :: seen k ss := rfl

theorem map_seen (k : Option TerminalColor) (ss : List Stroke) :
    (seen k ss).map Prod.fst = ss.flatMap shown := by
  unfold seen
  fun_induction pieces k ss <;> simp_all [shown]

theorem seen_literal (k : Option TerminalColor) (t : Text) (ss : List Stroke) :
    seen k (literal t ++ ss) = t.map (fun c => (c, k)) ++ seen k ss := by
  induction t with
  | nil => rfl
  | cons c t ih => exact congrArg ((c, k) :: ·) ih

theorem seen_enter (k : Option TerminalColor) (colors : List (Option TerminalColor)) (raw : Text)
    (ss : List Stroke) :
    seen (colors.findSome? id) (enter k raw :: ss) = seen ((k :: colors).findSome? id) ss := by
  cases k <;> rfl

theorem seen_leave (k : Option TerminalColor) (colors : List (Option TerminalColor))
    (ss : List Stroke) :
    seen ((k :: colors).findSome? id) (leave k (colors.findSome? id) :: ss) =
      seen (colors.findSome? id) ss := by
  cases k <;> rfl

end Stroke

namespace Span

/-- The strokes of the tokens from place `n` on show what those tokens should show, and the names of
all spans that end there have a color. -/
theorem strokes_spec {p : Palette} {ts : List Token} {n : Nat} {stack : List (Text × Nat)}
    {colors : List (Option TerminalColor)} (hf : Follows p ts n stack colors) {old : List Span}
    (hold : ∀ s ∈ old, s.start < n ∧ s.stop < n) {ss : List Stroke}
    (h : Stroke.ofTokens p colors ts = .ok ss) :
    Stroke.seen (colors.findSome? id) ss = shownFrom p (old ++ matching stack n ts) n ts ∧
      ∀ s ∈ matching stack n ts, s.name ≠ [] → (p.color? s.name).isSome := by
  -- The spans that end at an earlier place move to `old` one by one as the tokens are read.
  induction ts generalizing n stack colors old ss with
  | nil =>
    cases h
    exact ⟨rfl, by simp [matching]⟩
  | cons tok ts ih =>
    have hnext : ∀ s ∈ old, s.start < n + 1 ∧ s.stop < n + 1 := fun s hs =>
      ⟨Nat.lt_succ_of_lt (hold s hs).1, Nat.lt_succ_of_lt (hold s hs).2⟩
    have hpast : ∀ s ∈ old, s.stop < n := fun s hs => (hold s hs).2
    cases tok with
    | glyph c | escaped c =>
      obtain ⟨ss', hss, rfl⟩ := map_eq_ok h
      obtain ⟨hseen, hresolved⟩ := ih (hf.skip rfl) hnext hss
      have hhead := hf.colorAt_append hpast fun s hs => le_stop hs
      refine ⟨?_, hresolved⟩
      rw [shownFrom, hhead]
      exact congrArg ((c, _) :: ·) hseen
    | opening name offset =>
      have hhead := hf.colorAt_append hpast fun s hs => le_stop hs
      rw [Stroke.ofTokens, closes_eq] at h
      by_cases hclosed : 0 < closed ts
      · rw [if_pos (by simpa using hclosed)] at h
        obtain ⟨k, hk, h⟩ := bind_eq_ok h
        obtain ⟨ss', hss, h⟩ := bind_eq_ok h
        cases h
        rw [shownFrom, visible_paired offset hclosed, Stroke.seen_enter]
        exact ih (hf.enter hclosed hk) hnext hss
      · rw [if_neg (by simpa using hclosed)] at h
        have hzero : closed ts = 0 := by omega
        obtain ⟨ss', hss, rfl⟩ := map_eq_ok h
        obtain ⟨hseen, hresolved⟩ := ih (hf.literal hzero) hnext hss
        refine ⟨?_, hresolved⟩
        rw [shownFrom, hhead, visible_unpaired offset hzero hold, Stroke.seen_literal]
        exact congrArg (_ ++ ·) hseen
    | closing =>
      cases colors with
      | nil =>
        obtain rfl := hf.stray
        obtain ⟨ss', hss, rfl⟩ := map_eq_ok h
        obtain ⟨hseen, hresolved⟩ := ih (follows_nil p ts (n + 1)) hnext hss
        have hhead := hf.colorAt_append hpast fun s hs => le_stop hs
        refine ⟨?_, hresolved⟩
        rw [shownFrom, hhead, visible_stray hold]
        exact congrArg ((']', _) :: ·) hseen
      | cons k colors =>
        obtain ⟨e, stack', rfl, he, hname, hfollows⟩ := hf.leave
        obtain ⟨ss', hss, rfl⟩ := map_eq_ok h
        have hlast : ∀ s ∈ old ++ [⟨e.1, e.2, n⟩], s.start < n + 1 ∧ s.stop < n + 1 := by
          intro s hs
          obtain hs | hs := List.mem_append.1 hs
          · exact hnext s hs
          · obtain rfl := List.mem_singleton.1 hs
            exact ⟨Nat.lt_succ_of_lt he, Nat.lt_succ_self n⟩
        have hspans : old ++ matching (e :: stack') n (.closing :: ts) =
            (old ++ [⟨e.1, e.2, n⟩]) ++ matching stack' (n + 1) ts := by
          simp [matching]
        obtain ⟨hseen, hresolved⟩ := ih hfollows hlast hss
        constructor
        · rw [shownFrom, visible_partner, Stroke.seen_leave, hspans]
          exact hseen
        · exact List.forall_mem_cons.2 ⟨hname, hresolved⟩

end Span

end Listing
