import Mathlib
import Listing.Proofs.Paint.Stacks

namespace Listing

namespace Token

theorem size_raw_escaped {c : Char} (hc : isMark c = true) : Text.size (escaped c).raw = 2 := by
  have hcases : c = '[' ∨ c = ']' ∨ c = '\\' := by simpa [isMark, or_assoc] using hc
  obtain rfl | rfl | rfl := hcases <;> rfl

theorem size_raw_opening (name : Text) (offset : Nat) :
    Text.size (opening name offset).raw = name.size + 2 := by
  have hopen : '['.utf8Size = 1 := rfl
  have hcolon : ':'.utf8Size = 1 := rfl
  simp only [raw, List.cons_append, Text.size_cons, Text.size_append, Text.size_nil, hopen, hcolon]
  omega

/-- Each token is read where those before it end. -/
theorem readFrom_eq_cons {pos : Nat} {t : Text} {tok : Token} {ts : List Token}
    (h : readFrom pos t = tok :: ts) :
    (∀ name offset, tok = .opening name offset → offset = pos) ∧
      ∃ u, ts = readFrom (pos + Text.size tok.raw) u := by
  fun_induction readFrom pos t with
  | case1 => cases h
  | case2 pos c t hc _ =>
    obtain ⟨rfl, rfl⟩ := List.cons.inj h
    refine ⟨fun _ _ hopening => ?_, t, by rw [size_raw_escaped hc]⟩
    cases hopening
  | case4 pos t name rest hname _ =>
    obtain ⟨rfl, rfl⟩ := List.cons.inj h
    refine ⟨fun _ _ hopening => ?_, rest, by rw [size_raw_opening, ← Nat.add_assoc]⟩
    cases hopening
    rfl
  | case3 | case5 | case6 | case7 =>
    obtain ⟨rfl, rfl⟩ := List.cons.inj h
    refine ⟨fun _ _ hopening => ?_, _, rfl⟩
    cases hopening

theorem offset_readFrom {pos offset : Nat} {t name : Text} {before after : List Token}
    (h : readFrom pos t = before ++ .opening name offset :: after) :
    offset = pos + Text.size (before.flatMap raw) := by
  induction before generalizing pos t with
  | nil => exact (readFrom_eq_cons h).1 name offset rfl
  | cons tok before ih =>
    obtain ⟨u, hu⟩ := (readFrom_eq_cons h).2
    rw [ih hu.symm, List.flatMap_cons, Text.size_append, Nat.add_assoc]

end Token

namespace Stroke

theorem source_ofTokens {p : Palette} {stack : List (Option TerminalColor)} {ts : List Token}
    {ss : List Stroke} (h : ofTokens p stack ts = .ok ss) :
    ss.flatMap source = ts.flatMap Token.raw := by
  have hliteral (t : Text) : (literal t).flatMap source = t := by
    rw [literal, List.flatMap_map]
    exact List.flatMap_singleton' t
  induction ts generalizing stack ss with
  | nil =>
    cases h
    rfl
  | cons tok ts ih =>
    rw [List.flatMap_cons]
    cases tok with
    | glyph c | escaped c =>
      obtain ⟨ss', hss, rfl⟩ := map_eq_ok h
      rw [List.flatMap_cons, ih hss]
      rfl
    | opening name offset =>
      rw [ofTokens] at h
      split at h
      · obtain ⟨k, _, h⟩ := bind_eq_ok h
        obtain ⟨ss', hss, h⟩ := bind_eq_ok h
        cases h
        rw [List.flatMap_cons, ih hss]
        rfl
      · obtain ⟨ss', hss, rfl⟩ := map_eq_ok h
        rw [List.flatMap_append, ih hss, hliteral]
    | closing =>
      cases stack with
      | nil | cons k stack =>
        obtain ⟨ss', hss, rfl⟩ := map_eq_ok h
        rw [List.flatMap_cons, ih hss]
        rfl

end Stroke

namespace Span

def Unresolved (p : Palette) (s : Span) : Prop := s.name ≠ [] ∧ p.color? s.name = none

def FirstUnresolved (p : Palette) (spans : List Span) (s : Span) : Prop :=
  s ∈ spans ∧ s.Unresolved p ∧ ∀ x ∈ spans, x.Unresolved p → s.start ≤ x.start

theorem spanColor_eq_error {p : Palette} {name : Text} {offset : Nat} {e : UnknownColor}
    (h : Stroke.spanColor p name offset = .error e) :
    name ≠ [] ∧ p.color? name = none ∧ e = ⟨name, offset⟩ := by
  unfold Stroke.spanColor at h
  by_cases hname : name = []
  · rw [if_pos hname] at h
    cases h
  · rw [if_neg hname] at h
    cases hk : p.color? name with
    | some k =>
      rw [hk] at h
      cases h
    | none =>
      rw [hk] at h
      cases h
      exact ⟨hname, rfl, rfl⟩

section Follows

variable {p : Palette} {ts : List Token} {n : Nat} {stack : List (Text × Nat)}
  {colors : List (Option TerminalColor)}

theorem Follows.le_start (hf : Follows p ts n stack colors) {s : Span}
    (hs : s ∈ matching stack n ts) (hun : s.Unresolved p) : n ≤ s.start := by
  by_contra hlt
  have hmem : (s.name, s.start) ∈ ((matching stack n ts).filter
      fun s => decide (s.start < n)).map fun s => (s.name, s.start) :=
    List.mem_map_of_mem (f := fun s : Span => (s.name, s.start))
      (List.mem_filter.2 ⟨hs, by simpa using hlt⟩)
  rw [filter_matching (Nat.le_refl n)] at hmem
  have hsome := hf.resolved _ (List.mem_of_mem_filter hmem) hun.1
  rw [hun.2] at hsome
  cases hsome

/-- When painting fails at a bracket, that bracket starts the first unresolved span. -/
theorem Follows.ofTokens_error (hf : Follows p ts n stack colors) {e : UnknownColor}
    (h : Stroke.ofTokens p colors ts = .error e) :
    ∃ s before after, FirstUnresolved p (matching stack n ts) s ∧ s.name = e.name ∧
      ts = before ++ .opening e.name e.offset :: after ∧ s.start = n + before.length := by
  induction ts generalizing n stack colors with
  | nil => cases h
  | cons tok ts ih =>
    have hskip {stack' : List (Text × Nat)} {colors' : List (Option TerminalColor)}
        (hf' : Follows p ts (n + 1) stack' colors')
        (h' : Stroke.ofTokens p colors' ts = .error e) :
        ∃ s before after, FirstUnresolved p (matching stack' (n + 1) ts) s ∧ s.name = e.name ∧
          tok :: ts = before ++ .opening e.name e.offset :: after ∧
            s.start = n + before.length := by
      obtain ⟨s, before, after, hs, hname, hts, hstart⟩ := ih hf' h'
      refine ⟨s, tok :: before, after, hs, hname, by rw [hts, List.cons_append], ?_⟩
      rw [hstart, List.length_cons]
      omega
    cases tok with
    | glyph c | escaped c => exact hskip (hf.skip rfl) (map_eq_error h)
    | opening name offset =>
      rw [Stroke.ofTokens, closes_eq] at h
      by_cases hclosed : 0 < closed ts
      · rw [if_pos (by simpa using hclosed)] at h
        obtain hk | ⟨k, hk, h⟩ := bind_eq_error h
        · obtain ⟨hne, hnone, rfl⟩ := spanColor_eq_error hk
          obtain ⟨s, hs, rfl, rfl⟩ := exists_paired name n stack hclosed
          exact ⟨s, [], ts, ⟨hs, ⟨hne, hnone⟩, fun x hx hun => hf.le_start hx hun⟩, rfl, rfl, rfl⟩
        · obtain hts | ⟨ss, _, h⟩ := bind_eq_error h
          · exact hskip (hf.enter hclosed hk) hts
          · cases h
      · rw [if_neg (by simpa using hclosed)] at h
        exact hskip (hf.literal (by omega)) (map_eq_error h)
    | closing =>
      cases colors with
      | nil =>
        obtain rfl := hf.stray
        exact hskip (follows_nil p ts (n + 1)) (map_eq_error h)
      | cons k colors =>
        obtain ⟨e', stack', rfl, _, hresolved, hfollows⟩ := hf.leave
        obtain ⟨s, before, after, ⟨hs, hun, hfirst⟩, hpos⟩ := hskip hfollows (map_eq_error h)
        refine ⟨s, before, after, ⟨List.mem_cons_of_mem _ hs, hun, ?_⟩, hpos⟩
        intro x hx hxun
        obtain rfl | hx := List.mem_cons.1 hx
        · have hsome := hresolved hxun.1
          rw [hxun.2] at hsome
          cases hsome
        · exact hfirst x hx hxun

end Follows

theorem exists_error_iff {p : Palette} {t : Text} :
    (∃ e, Stroke.ofText p t = .error e) ↔ ∃ s ∈ ofTokens (Token.ofText t), s.Unresolved p := by
  constructor
  · rintro ⟨e, h⟩
    obtain ⟨s, _, _, ⟨hs, hun, _⟩, _⟩ := (follows_nil p (Token.ofText t) 0).ofTokens_error h
    exact ⟨s, hs, hun⟩
  · rintro ⟨s, hs, hne, hnone⟩
    cases h : Stroke.ofText p t with
    | error e => exact ⟨e, rfl⟩
    | ok ss =>
      have hold : ∀ s ∈ ([] : List Span), s.start < 0 ∧ s.stop < 0 := by simp
      have hsome := (strokes_spec (follows_nil p _ 0) hold h).2 s hs hne
      rw [hnone] at hsome
      cases hsome

theorem paint_eq_error_iff {p : Palette} {m : PaintMode} {t : Text} {e : UnknownColor} :
    paint p m t = .error e ↔ Stroke.ofText p t = .error e := by
  constructor
  · exact map_eq_error
  · intro h
    rw [paint, h]
    rfl

/-- No mode paints what another refuses. A text is refused for its first unresolved span, of which
the error gives the name and the position in the text, and a text that is painted comes back
unchanged when its tags are kept. -/
theorem paint_refuses (p : Palette) (t : Text) :
    (∀ m m' e, paint p m t = .error e → paint p m' t = .error e) ∧
    (∀ m, (∃ e, paint p m t = .error e) ↔ ∃ s ∈ ofTokens (Token.ofText t), s.Unresolved p) ∧
    (∀ m e, paint p m t = .error e → ∃ s before after,
      FirstUnresolved p (ofTokens (Token.ofText t)) s ∧ s.name = e.name ∧
      Token.ofText t = before ++ .opening e.name e.offset :: after ∧ s.start = before.length ∧
      t = before.flatMap Token.raw ++ '[' :: e.name ++ ':' :: after.flatMap Token.raw ∧
      Text.size (before.flatMap Token.raw) = e.offset) ∧
    ∀ m out, paint p m t = .ok out → paint p .tagged t = .ok t := by
  have hraw : (Token.ofText t).flatMap Token.raw = t := Token.flatMap_raw_readFrom 0 t
  refine ⟨?_, ?_, ?_, ?_⟩
  · intro m m' e h
    exact paint_eq_error_iff.2 (paint_eq_error_iff.1 h)
  · intro m
    simp only [paint_eq_error_iff]
    exact exists_error_iff
  · intro m e h
    obtain ⟨s, before, after, hs, hname, hts, hstart⟩ :=
      (follows_nil p (Token.ofText t) 0).ofTokens_error (paint_eq_error_iff.1 h)
    refine ⟨s, before, after, hs, hname, hts, by rw [hstart, Nat.zero_add], ?_, ?_⟩
    · rw [hts, List.flatMap_append, List.flatMap_cons] at hraw
      simpa [Token.raw] using hraw.symm
    · rw [Token.offset_readFrom hts, Nat.zero_add]
  · intro m out h
    obtain ⟨ss, hss, _⟩ := map_eq_ok h
    have hsource : ss.flatMap Stroke.source = t := (Stroke.source_ofTokens hss).trans hraw
    rw [paint, hss]
    exact congrArg Except.ok hsource

theorem paint_refuses_nested :
    (∀ m, paint Palette.empty m "é[x:[:a[nope:b]][oops:c]" = .error ⟨"nope", 8⟩) ∧
    (∃ s before after,
      FirstUnresolved Palette.empty (ofTokens (Token.ofText "é[x:[:a[nope:b]][oops:c]")) s ∧
      s.name = "nope" ∧
      Token.ofText "é[x:[:a[nope:b]][oops:c]" = before ++ .opening "nope" 8 :: after ∧
      s.start = before.length ∧
      "é[x:[:a[nope:b]][oops:c]" =
        before.flatMap Token.raw ++ '[' :: "nope" ++ ':' :: after.flatMap Token.raw ∧
      Text.size (before.flatMap Token.raw) = 8) ∧
    paint Palette.empty .tagged "é[:\\[x:a]][blue:\\[]" = .ok "é[:\\[x:a]][blue:\\[]" := by
  have hrefused : paint Palette.empty .plain "é[x:[:a[nope:b]][oops:c]" = .error ⟨"nope", 8⟩ := by
    have htokens : Token.ofText "é[x:[:a[nope:b]][oops:c]" =
        [.glyph 'é', .opening "x" 2, .opening "" 5, .glyph 'a', .opening "nope" 8, .glyph 'b',
          .closing, .closing, .opening "oops" 17, .glyph 'c', .closing] := by cbv
    rw [paint, Stroke.ofText, htokens]
    rfl
  have hpainted : paint Palette.empty .plain "é[:\\[x:a]][blue:\\[]" = .ok "é[x:a][" := by
    have htokens : Token.ofText "é[:\\[x:a]][blue:\\[]" =
        [.glyph 'é', .opening "" 2, .escaped '[', .glyph 'x', .glyph ':', .glyph 'a', .closing,
          .closing, .opening "blue" 11, .escaped '[', .closing] := by cbv
    rw [paint, Stroke.ofText, htokens]
    rfl
  have h := paint_refuses Palette.empty "é[x:[:a[nope:b]][oops:c]"
  have hkept := paint_refuses Palette.empty "é[:\\[x:a]][blue:\\[]"
  exact ⟨fun m => h.1 .plain m _ hrefused, h.2.2.1 .plain _ hrefused,
    hkept.2.2.2 .plain _ hpainted⟩

end Span

end Listing
