import Mathlib
import Listing.Proofs.Paint.Stacks

namespace Listing

namespace Screen

def setting? : Text → Option (Option TerminalColor)
  | ['0'] => some none
  | ['3', d] =>
    some <$> TerminalColor.all.find? fun k => decide (k.index < 8 ∧ Text.decimal k.index = [d])
  | '3' :: '8' :: ';' :: '5' :: ';' :: digits =>
    some <$> TerminalColor.all.find? fun k => decide (Text.decimal k.index = digits)
  | _ => none

/-- The control sequence at the start of a text, and the text after it. -/
def control? : Text → Option (Option TerminalColor × Text)
  | '\x1b' :: '[' :: t => (Text.cut 'm' t).bind fun p => (setting? p.1).map fun k => (k, p.2)
  | _ => none

theorem length_control {t rest : Text} {k : Option TerminalColor}
    (h : control? t = some (k, rest)) :
    rest.length < t.length := by
  unfold control? at h
  split at h
  · next t =>
    obtain ⟨p, hp, h⟩ := Option.bind_eq_some_iff.1 h
    obtain ⟨k', _, h⟩ := Option.map_eq_some_iff.1 h
    cases h
    rw [Text.cut_eq_some hp]
    simp
    omega
  · cases h

/-- Shows a text on a terminal that has this color, and tells which color it has afterwards. -/
def read (k : Option TerminalColor) (t : Text) : Shown × Option TerminalColor :=
  match _h : control? t with
  | some (k', rest) => read k' rest
  | none =>
    match t with
    | [] => ([], k)
    | c :: t => let r := read k t; ((c, k) :: r.1, r.2)
termination_by t.length
decreasing_by
  · exact length_control _h
  · simp

theorem read_nil (k : Option TerminalColor) : read k [] = ([], k) := by
  rw [read]
  rfl

theorem read_control {t rest : Text} {k' : Option TerminalColor} (h : control? t = some (k', rest))
    (k : Option TerminalColor) : read k t = read k' rest := by
  rw [read]
  split
  · next h' =>
    cases h.symm.trans h'
    rfl
  · next h' => cases h.symm.trans h'

theorem read_cons {c : Char} (hc : c ≠ '\x1b') (k : Option TerminalColor) (t : Text) :
    read k (c :: t) = ((c, k) :: (read k t).1, (read k t).2) := by
  have hnone : control? (c :: t) = none := by
    unfold control?
    split
    · next h => exact absurd (List.cons.inj h).1 hc
    · rfl
  rw [read]
  split
  · next h => cases hnone.symm.trans h
  · rfl

theorem read_append {t : Text} (ht : '\x1b' ∉ t) (k : Option TerminalColor) (u : Text) :
    read k (t ++ u) = (t.map (fun c => (c, k)) ++ (read k u).1, (read k u).2) := by
  induction t with
  | nil => rfl
  | cons c t ih =>
    have hc : c ≠ '\x1b' := (List.ne_of_not_mem_cons ht).symm
    rw [List.cons_append, read_cons hc, ih (List.not_mem_of_not_mem_cons ht)]
    rfl

theorem control_start (k : TerminalColor) (t : Text) :
    control? (k.start ++ t) = some (some k, t) := by
  cases k <;> rfl

theorem control_reset (t : Text) : control? (TerminalColor.reset ++ t) = some (none, t) := rfl

theorem read_inColor {t : Text} (ht : '\x1b' ∉ t) (k : Option TerminalColor) (u : Text) :
    read none (Stroke.inColor k t ++ u) =
      (t.map (fun c => (c, k)) ++ (read none u).1, (read none u).2) := by
  cases k with
  | none => exact read_append ht none u
  | some k =>
    by_cases hnil : t = []
    · subst hnil
      rfl
    · have hcolored : Stroke.inColor (some k) t ++ u =
          k.start ++ (t ++ (TerminalColor.reset ++ u)) := by
        simp [Stroke.inColor, TerminalColor.dye, hnil]
      rw [hcolored, read_control (control_start k _), read_append ht,
        read_control (control_reset u)]

theorem mem_runs {c : Char} {ss : List Stroke} (h : c ∈ (Stroke.runs ss).1) :
    c ∈ ss.flatMap Stroke.shown := by
  induction ss with
  | nil => exact h
  | cons s ss ih =>
    rw [List.flatMap_cons, List.mem_append]
    cases s with
    | mark x raw =>
      obtain rfl | h := List.mem_cons.1 h
      · exact .inl List.mem_cons_self
      · exact .inr (ih h)
    | enter k raw =>
      cases k with
      | none => exact .inr (ih h)
      | some k => cases h
    | leave k around =>
      cases k with
      | none => exact .inr (ih h)
      | some k => cases h

/-- The runs of strokes are read as what the strokes show, whatever the color of the first run. -/
theorem read_runs {ss : List Stroke} (hesc : '\x1b' ∉ ss.flatMap Stroke.shown)
    (k : Option TerminalColor) :
    read none (Stroke.inColor k (Stroke.runs ss).1 ++ (Stroke.runs ss).2) =
      (Stroke.seen k ss, none) := by
  rw [read_inColor fun h => hesc (mem_runs h)]
  induction ss generalizing k with
  | nil =>
    rw [Stroke.runs, read_nil]
    rfl
  | cons s ss ih =>
    have hss : '\x1b' ∉ ss.flatMap Stroke.shown := fun h =>
      hesc (List.mem_append_right _ h)
    have hrun : '\x1b' ∉ (Stroke.runs ss).1 := fun h => hss (mem_runs h)
    cases s with
    | mark c raw =>
      have hread := ih hss k
      rw [Prod.mk.injEq] at hread
      rw [Stroke.runs, Stroke.seen_mark, ← hread.1]
      exact Prod.ext rfl hread.2
    | enter k' raw =>
      cases k' with
      | none => exact ih hss k
      | some k' =>
        rw [Stroke.runs, read_inColor hrun]
        exact ih hss (some k')
    | leave k' around =>
      cases k' with
      | none => exact ih hss k
      | some k' =>
        rw [Stroke.runs, read_inColor hrun]
        exact ih hss around

/-- Painted text is shown character by character in the colors of the innermost named spans, and the
terminal has no color after it. The characters are those of the text without its tags, and each of
these spans has a color. -/
theorem read_paint {p : Palette} {t out : Text} (hesc : '\x1b' ∉ t)
    (h : paint p .colored t = .ok out) :
    read none out = (Span.shown p (Token.ofText t), none) ∧
      paint p .plain t = .ok ((Span.shown p (Token.ofText t)).map Prod.fst) ∧
      ∀ s ∈ Span.ofTokens (Token.ofText t), s.name ≠ [] → (p.color? s.name).isSome := by
  obtain ⟨ss, hss, rfl⟩ := map_eq_ok h
  have hold : ∀ s ∈ ([] : List Span), s.start < 0 ∧ s.stop < 0 := by simp
  obtain ⟨hseen, hresolved⟩ := Span.strokes_spec (Span.follows_nil p _ 0) hold hss
  change Stroke.seen none ss = Span.shown p (Token.ofText t) at hseen
  have hplain : ss.flatMap Stroke.shown = (Span.shown p (Token.ofText t)).map Prod.fst := by
    rw [← hseen, Stroke.map_seen]
  have hshown : '\x1b' ∉ ss.flatMap Stroke.shown := by
    rw [hplain]
    intro hmem
    have hraw := Span.mem_shownFrom hmem
    rw [Token.ofText, Token.flatMap_raw_readFrom] at hraw
    exact hesc hraw
  refine ⟨?_, ?_, hresolved⟩
  · rw [← hseen]
    exact read_runs hshown none
  · rw [paint, hss, ← hplain]
    rfl

theorem read_paint_mixed :
    paint (Palette.ofList [("bug", "red")]) .colored "[bug:a[:b[Blue:\\]]c]d]]e[x:f" =
      .ok "\x1b[38;5;9mab\x1b[0m\x1b[38;5;12m]\x1b[0m\x1b[38;5;9mcd\x1b[0m]e[x:f" ∧
    read none "\x1b[38;5;9mab\x1b[0m\x1b[38;5;12m]\x1b[0m\x1b[38;5;9mcd\x1b[0m]e[x:f" =
      ([('a', some .red), ('b', some .red), (']', some .blue), ('c', some .red), ('d', some .red),
        (']', none), ('e', none), ('[', none), ('x', none), (':', none), ('f', none)], none) := by
  have htokens : Token.ofText "[bug:a[:b[Blue:\\]]c]d]]e[x:f" =
      [.opening "bug" 0, .glyph 'a', .opening "" 6, .glyph 'b', .opening "Blue" 9, .escaped ']',
        .closing, .glyph 'c', .closing, .glyph 'd', .closing, .closing, .glyph 'e', .opening "x" 24,
        .glyph 'f'] := by cbv
  have hpaint : paint (Palette.ofList [("bug", "red")]) .colored "[bug:a[:b[Blue:\\]]c]d]]e[x:f" =
      .ok "\x1b[38;5;9mab\x1b[0m\x1b[38;5;12m]\x1b[0m\x1b[38;5;9mcd\x1b[0m]e[x:f" := by
    rw [paint, Stroke.ofText, htokens]
    rfl
  obtain ⟨hread, _⟩ := read_paint (by decide) hpaint
  rw [htokens] at hread
  exact ⟨hpaint, hread⟩

end Screen

end Listing
