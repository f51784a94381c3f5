import Mathlib
import Listing.Proofs.Paint.Partners
import Listing.Proofs.Paint.Unresolved

namespace Listing

namespace Stroke

/-- One turn of painting, at a token with some tokens behind it: the strokes of the token, and the
stack behind it. -/
def turn (p : Palette) (stack : List (Option TerminalColor)) :
    Token → List Token → Except UnknownColor (List Stroke × List (Option TerminalColor))
  | .glyph c, _ => .ok ([mark c [c]], stack)
  | .escaped c, _ => .ok ([mark c ['\\', c]], stack)
  | .opening name offset, after =>
    if closes 0 after then
      (fun k => ([enter k (Token.opening name offset).raw], k :: stack)) <$> spanColor p name offset
    else .ok (literal (Token.opening name offset).raw, stack)
  | .closing, _ =>
    match stack with
    | k :: stack => .ok ([leave k (stack.findSome? id)], stack)
    | [] => .ok ([mark ']' [']']], [])

/-- Painting up to some tokens: the strokes so far, and the stack in front of these tokens. -/
def turns (p : Palette) (stack : List (Option TerminalColor)) :
    List Token → List Token → Except UnknownColor (List Stroke × List (Option TerminalColor))
  | [], _ => .ok ([], stack)
  | tok :: before, after => do
    let r ← turn p stack tok (before ++ after)
    (fun r' => (r.1 ++ r'.1, r'.2)) <$> turns p r.2 before after

theorem ofTokens_cons (p : Palette) (stack : List (Option TerminalColor)) (tok : Token)
    (after : List Token) :
    ofTokens p stack (tok :: after) = (do
      let r ← turn p stack tok after
      (r.1 ++ ·) <$> ofTokens p r.2 after) := by
  cases tok with
  | glyph c | escaped c => rfl
  | opening name offset =>
    rw [ofTokens, turn]
    split
    · cases spanColor p name offset <;> rfl
    · rfl
  | closing =>
    cases stack with
    | nil => rfl
    | cons k stack => rfl

/-- Painting goes on behind some tokens with the stack that they lead to. -/
theorem ofTokens_append (p : Palette) (stack : List (Option TerminalColor))
    (before after : List Token) :
    ofTokens p stack (before ++ after) = (do
      let r ← turns p stack before after
      (r.1 ++ ·) <$> ofTokens p r.2 after) := by
  induction before generalizing stack with
  | nil =>
    change ofTokens p stack after = ([] ++ ·) <$> ofTokens p stack after
    simp
  | cons tok before ih =>
    rw [List.cons_append, ofTokens_cons, turns]
    cases turn p stack tok (before ++ after) with
    | error e => rfl
    | ok r =>
      change (r.1 ++ ·) <$> ofTokens p r.2 (before ++ after) =
        ((fun r' => (r.1 ++ r'.1, r'.2)) <$> turns p r.2 before after) >>=
          fun r' => (r'.1 ++ ·) <$> ofTokens p r'.2 after
      rw [ih]
      cases turns p r.2 before after with
      | error e => rfl
      | ok r' =>
        change (r.1 ++ ·) <$> ((r'.1 ++ ·) <$> ofTokens p r'.2 after) =
          (r.1 ++ r'.1 ++ ·) <$> ofTokens p r'.2 after
        simp only [Functor.map_map, List.append_assoc]

end Stroke

namespace Span

section Follows

variable {p : Palette} {tok : Token} {before after : List Token} {n : Nat}
  {stack : List (Text × Nat)} {colors : List (Option TerminalColor)}
  {r : List Stroke × List (Option TerminalColor)}

theorem Follows.turn (hf : Follows p (tok :: after) n stack colors)
    (h : Stroke.turn p colors tok after = .ok r) :
    Follows p after (n + 1) (opened stack n [tok]) r.2 := by
  cases tok with
  | glyph c | escaped c =>
    cases h
    exact hf.skip rfl
  | opening name offset =>
    rw [Stroke.turn, closes_eq] at h
    by_cases hclosed : 0 < closed after
    · rw [if_pos (by simpa using hclosed)] at h
      obtain ⟨k, hk, rfl⟩ := map_eq_ok h
      exact hf.enter hclosed hk
    · rw [if_neg (by simpa using hclosed)] at h
      cases h
      exact hf.literal (by omega)
  | closing =>
    cases colors with
    | nil =>
      cases h
      obtain rfl := hf.stray
      exact follows_nil p after (n + 1)
    | cons k colors =>
      cases h
      obtain ⟨e, stack', rfl, -, -, hnext⟩ := hf.leave
      exact hnext

theorem Follows.turns (hf : Follows p (before ++ after) n stack colors)
    (h : Stroke.turns p colors before after = .ok r) :
    Follows p after (n + before.length) (opened stack n before) r.2 := by
  induction before generalizing n stack colors r with
  | nil =>
    cases h
    exact hf
  | cons tok before ih =>
    obtain ⟨r₁, hturn, h⟩ := bind_eq_ok h
    obtain ⟨r₂, hturns, rfl⟩ := map_eq_ok h
    have hlength : n + (tok :: before).length = n + 1 + before.length := by
      rw [List.length_cons]
      omega
    have hnext := ih (hf.turn hturn) hturns
    rw [hlength, ← List.singleton_append, opened_append]
    exact hnext

theorem Follows.not_unresolved (hf : Follows p (tok :: after) n stack colors) {s : Span}
    (hs : s ∈ matching stack n [tok]) : ¬s.Unresolved p := by
  intro hun
  have hle : n ≤ s.start := by
    apply hf.le_start _ hun
    rw [← List.singleton_append, matching_append]
    exact List.mem_append_left _ hs
  cases tok with
  | glyph c | escaped c | opening name offset => cases hs
  | closing =>
    cases stack with
    | nil => cases hs
    | cons e stack =>
      obtain rfl := List.mem_singleton.1 hs
      exact Nat.not_lt_of_le hle (hf.below e List.mem_cons_self)

theorem Follows.exists_turn (hf : Follows p (tok :: after) n stack colors)
    (h : ∀ s ∈ matching stack n (tok :: after), s.Unresolved p → s.start ≠ n) :
    ∃ r, Stroke.turn p colors tok after = .ok r := by
  cases tok with
  | glyph c | escaped c => exact ⟨_, rfl⟩
  | closing =>
    cases colors with
    | nil | cons k colors => exact ⟨_, rfl⟩
  | opening name offset =>
    rw [Stroke.turn, closes_eq]
    by_cases hclosed : 0 < closed after
    · rw [if_pos (by simpa using hclosed)]
      obtain ⟨s, hs, rfl, hstart⟩ := exists_paired name n stack hclosed
      cases hk : Stroke.spanColor p s.name offset with
      | ok k => exact ⟨_, rfl⟩
      | error e =>
        obtain ⟨hne, hnone, -⟩ := spanColor_eq_error hk
        exact absurd hstart (h s hs ⟨hne, hnone⟩)
    · rw [if_neg (by simpa using hclosed)]
      exact ⟨_, rfl⟩

/-- Painting comes as far as the start of the first unresolved span. -/
theorem Follows.exists_turns_iff (hf : Follows p (before ++ after) n stack colors) :
    (∃ r, Stroke.turns p colors before after = .ok r) ↔
      ∀ s ∈ matching stack n (before ++ after), s.Unresolved p → n + before.length ≤ s.start := by
  induction before generalizing n stack colors with
  | nil => exact iff_of_true ⟨_, rfl⟩ fun s hs hun => hf.le_start hs hun
  | cons tok before ih =>
    have hlength : n + (tok :: before).length = n + 1 + before.length := by
      rw [List.length_cons]
      omega
    have hspans : matching stack n (tok :: before ++ after) =
        matching stack n [tok] ++ matching (opened stack n [tok]) (n + 1) (before ++ after) := by
      rw [List.cons_append, ← List.singleton_append, matching_append]
      rfl
    rw [hlength]
    constructor
    · rintro ⟨r, h⟩ s hs hun
      obtain ⟨r₁, hturn, h⟩ := bind_eq_ok h
      obtain ⟨r₂, hturns, -⟩ := map_eq_ok h
      rw [hspans] at hs
      obtain hs | hs := List.mem_append.1 hs
      · exact absurd hun (hf.not_unresolved hs)
      · exact (ih (hf.turn hturn)).1 ⟨r₂, hturns⟩ s hs hun
    · intro h
      have hstart : ∀ s ∈ matching stack n (tok :: before ++ after), s.Unresolved p →
          s.start ≠ n := by
        intro s hs hun
        have hle := h s hs hun
        omega
      obtain ⟨r₁, hturn⟩ : ∃ r, Stroke.turn p colors tok (before ++ after) = .ok r :=
        hf.exists_turn hstart
      obtain ⟨r₂, hturns⟩ := (ih (hf.turn hturn)).2 fun s hs =>
        h s (hspans ▸ List.mem_append_right _ hs)
      refine ⟨(r₁.1 ++ r₂.1, r₂.2), ?_⟩
      rw [Stroke.turns, hturn]
      exact congrArg (Functor.map _) hturns

end Follows

theorem colors_turns {p : Palette} {before after : List Token}
    {r : List Stroke × List (Option TerminalColor)}
    (h : Stroke.turns p [] before after = .ok r) :
    r.2 = (openAt (ofTokens (before ++ after)) before.length).map fun s => tint p s.name := by
  have hcolors := ((follows_nil p (before ++ after) 0).turns h).colors_eq
  rw [← map_openAt, List.map_map] at hcolors
  exact hcolors

/-- Painting finds the pairs of matching. Its stack holds the colors of the open spans, innermost
first, so that a closing bracket takes off the color of its partner, or is literal when it has none,
and nothing is left at the end. Brackets without a partner are outside all spans. -/
theorem lookahead_is_matching (p : Palette) (ts : List Token) :
    (∀ spans, IsMatching ts spans ↔ ∀ s, s ∈ spans ↔ s ∈ ofTokens ts) ∧
    (∀ before name offset after, ts = before ++ .opening name offset :: after →
      (Stroke.closes 0 after = true ↔ ∃ s ∈ ofTokens ts, s.start = before.length)) ∧
    (∀ before after, ts = before ++ after →
      Stroke.ofTokens p [] ts = (do
        let r ← Stroke.turns p [] before after
        (r.1 ++ ·) <$> Stroke.ofTokens p r.2 after) ∧
      ((∃ r, Stroke.turns p [] before after = .ok r) ↔
        ∀ s ∈ ofTokens ts, s.Unresolved p → before.length ≤ s.start) ∧
      (openAt (ofTokens ts) before.length).Pairwise (fun a b => b.start < a.start) ∧
      ∀ r, Stroke.turns p [] before after = .ok r →
        r.2 = (openAt (ofTokens ts) before.length).map fun s => tint p s.name) ∧
    (∀ before after r, ts = before ++ .closing :: after →
      Stroke.turns p [] before (.closing :: after) = .ok r →
      (∀ s ∈ ofTokens ts, s.stop = before.length → ∃ colors,
        openAt (ofTokens ts) before.length = s :: openAt (ofTokens ts) (before.length + 1) ∧
        colors = (openAt (ofTokens ts) (before.length + 1)).map (fun s => tint p s.name) ∧
        r.2 = tint p s.name :: colors ∧
        Stroke.turn p r.2 .closing after =
          .ok ([.leave (tint p s.name) (colors.findSome? id)], colors)) ∧
      (Unpaired ts before.length → r.2 = [] ∧
        Stroke.turn p r.2 .closing after = .ok ([.mark ']' [']']], []))) ∧
    (∀ r, Stroke.turns p [] ts [] = .ok r → r.2 = []) ∧
    ∀ n, Unpaired ts n → ∀ s ∈ ofTokens ts, ¬(s.start < n ∧ n < s.stop) := by
  refine ⟨fun _ => isMatching_iff, ?_, ?_, ?_, ?_, ?_⟩
  · rintro before name offset after rfl
    exact closes_iff_paired before name offset after
  · rintro before after rfl
    have hiff := (follows_nil p (before ++ after) 0).exists_turns_iff
    rw [Nat.zero_add] at hiff
    exact ⟨Stroke.ofTokens_append p [] before after, hiff, openAt_sorted before after,
      fun r h => colors_turns h⟩
  · rintro before after r rfl h
    have hcolors := colors_turns h
    constructor
    · intro s hs hstop
      have hopen := openAt_stop hs
      rw [hstop] at hopen
      rw [hopen, List.map_cons] at hcolors
      exact ⟨_, hopen, rfl, hcolors, by rw [hcolors]; rfl⟩
    · intro hunpaired
      rw [openAt_unpaired hunpaired, List.map_nil] at hcolors
      exact ⟨hcolors, by rw [hcolors]; rfl⟩
  · intro r h
    have hcolors := colors_turns h
    rw [List.append_nil] at hcolors
    rw [hcolors, openAt_past fun s hs => (found_ofTokens ts).isMatching.stop_lt hs]
    rfl
  · rintro n h s hs ⟨hstart, hstop⟩
    have hmem := mem_openAt.2 ⟨hs, hstart, Nat.le_of_lt hstop⟩
    rw [openAt_unpaired h] at hmem
    cases hmem

theorem lookahead_is_matching_nested : ∃ before after : List Token,
    Token.ofText "][x:[blue:a[:b]]" = before ++ .closing :: after ∧ before.length = 6 ∧
    (∀ spans, IsMatching (before ++ .closing :: after) spans ↔
      ∀ s, s ∈ spans ↔ s ∈ [⟨"", 4, 6⟩, ⟨"blue", 2, 7⟩]) ∧
    (Stroke.closes 0 (before.drop 2 ++ .closing :: after) = false ∧
      Stroke.closes 0 (before.drop 3 ++ .closing :: after) = true) ∧
    (∃ r, Stroke.turns Palette.empty [] before (.closing :: after) = .ok r ∧
      r.2 = [none, some .blue] ∧
      Stroke.turn Palette.empty r.2 .closing after =
        .ok ([.leave none (some .blue)], [some .blue])) ∧
    (∃ r, Stroke.turns Palette.empty [] (before ++ .closing :: after) [] = .ok r ∧ r.2 = []) ∧
    Unpaired (before ++ .closing :: after) 1 ∧
    ∀ s ∈ ofTokens (before ++ .closing :: after), ¬(s.start < 1 ∧ 1 < s.stop) := by
  obtain ⟨before, hbefore⟩ : ∃ before : List Token, before = [.closing, .opening "x" 1,
      .opening "blue" 4, .glyph 'a', .opening "" 11, .glyph 'b'] := ⟨_, rfl⟩
  have htokens : Token.ofText "][x:[blue:a[:b]]" = before ++ .closing :: [.closing] := by
    rw [hbefore]
    cbv
  have hspans : ofTokens (before ++ .closing :: [.closing]) = [⟨"", 4, 6⟩, ⟨"blue", 2, 7⟩] := by
    rw [hbefore]
    rfl
  have hlength : before.length = 6 := by
    rw [hbefore]
    rfl
  obtain ⟨hmatching, hlookahead, -, hclosing, hend, houtside⟩ :=
    lookahead_is_matching Palette.empty (before ++ .closing :: [.closing])
  rw [hspans] at hmatching hlookahead hclosing houtside
  have hunpaired : Unpaired (before ++ .closing :: [.closing]) 1 := by
    rw [Unpaired, hspans, hbefore]
    exact .inl ⟨⟨"x", 1, rfl⟩, by decide⟩
  obtain ⟨r, hr⟩ : ∃ r, Stroke.turns Palette.empty [] before [.closing, .closing] = .ok r := by
    rw [hbefore]
    exact ⟨_, rfl⟩
  obtain ⟨r', hr'⟩ :
      ∃ r, Stroke.turns Palette.empty [] (before ++ .closing :: [.closing]) [] = .ok r := by
    rw [hbefore]
    exact ⟨_, rfl⟩
  obtain ⟨hpaired, -⟩ := hclosing before [.closing] r rfl hr
  obtain ⟨colors, -, hcolors, hstack, hturn⟩ := hpaired ⟨"", 4, 6⟩ (by decide) hlength.symm
  have hleft : colors = [some .blue] := by
    rw [hcolors, hlength]
    rfl
  rw [hleft] at hstack hturn
  have hunclosed := hlookahead [.closing] "x" 1 (before.drop 2 ++ .closing :: [.closing])
    (by rw [hbefore]; rfl)
  have hclosed := hlookahead (before.take 2) "blue" 4 (before.drop 3 ++ .closing :: [.closing])
    (by rw [hbefore]; rfl)
  refine ⟨before, [.closing], htokens, hlength, hmatching, ⟨?_, ?_⟩, ⟨r, hr, hstack, hturn⟩,
    ⟨r', hr', hend r' hr'⟩, hunpaired, ?_⟩
  · rw [Bool.eq_false_iff, ne_eq, hunclosed]
    decide
  · rw [hclosed, hbefore]
    decide
  · rw [hspans]
    exact houtside 1 hunpaired

end Span

end Listing
