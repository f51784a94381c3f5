import Listing.Paint.Mode
import Listing.Proofs.Paint.Matching

namespace Listing

abbrev Shown := List (Char × Option TerminalColor)

theorem Token.flatMap_raw_readFrom (pos : Nat) (t : Text) : (readFrom pos t).flatMap raw = t := by
  fun_induction readFrom pos t with
  | case1 pos => rfl
  | case2 pos c t hc ih => simp [raw, ih]
  | case3 pos c t hc ih => simp [raw, ih]
  | case4 pos t name rest h ih =>
    rw [List.flatMap_cons, ih, spanName_eq_some h]
    simp [raw]
  | case5 pos t h ih => simp [raw, ih]
  | case6 pos t ih => simp [raw, ih]
  | case7 pos c t h1 h2 h3 ih => simp [raw, ih]

namespace Span

/-- Of the spans with a name that hold a place between their brackets, the one that starts last. -/
def innermost? (spans : List Span) (i : Nat) : Option Span :=
  (spans.filter fun s => decide (s.name ≠ [] ∧ s.start < i ∧ i < s.stop)).argmax start

def colorAt (p : Palette) (spans : List Span) (i : Nat) : Option TerminalColor :=
  (innermost? spans i).bind fun s => p.color? s.name

/-- The characters that a token at a place shows. A bracket without a partner is literal text. -/
def visible (spans : List Span) (i : Nat) : Token → Text
  | .glyph c => [c]
  | .escaped c => [c]
  | .opening name offset =>
    if ∃ s ∈ spans, s.start = i then [] else (Token.opening name offset).raw
  | .closing => if ∃ s ∈ spans, s.stop = i then [] else [']']

def shownFrom (p : Palette) (spans : List Span) (n : Nat) : List Token → Shown
  | [] => []
  | tok :: ts =>
    (visible spans n tok).map (fun c => (c, colorAt p spans n)) ++ shownFrom p spans (n + 1) ts

def shown (p : Palette) (ts : List Token) : Shown := shownFrom p (ofTokens ts) 0 ts

theorem mem_visible {spans : List Span} {i : Nat} {tok : Token} {c : Char}
    (h : c ∈ visible spans i tok) : c ∈ tok.raw := by
  cases tok with
  | glyph x => exact h
  | escaped x => exact List.mem_cons_of_mem _ h
  | opening name offset =>
    rw [visible] at h
    split at h
    · cases h
    · exact h
  | closing =>
    rw [visible] at h
    split at h
    · cases h
    · exact h

theorem mem_shownFrom {p : Palette} {spans : List Span} {n : Nat} {ts : List Token} {c : Char}
    (h : c ∈ (shownFrom p spans n ts).map Prod.fst) : c ∈ ts.flatMap Token.raw := by
  induction ts generalizing n with
  | nil => exact h
  | cons tok ts ih =>
    rw [shownFrom, List.map_append, List.map_map, List.mem_append] at h
    rw [List.flatMap_cons, List.mem_append]
    obtain h | h := h
    · have hc : c ∈ visible spans n tok := by simpa using h
      exact .inl (mem_visible hc)
    · exact .inr (ih h)

theorem argmax_cons_of_le {f : Span → Nat} {s : Span} {l : List Span} (h : ∀ x ∈ l, f x ≤ f s) :
    (s :: l).argmax f = some s := by
  rw [List.argmax_cons]
  cases hm : l.argmax f with
  | none => rfl
  | some x =>
    have hx : f x ≤ f s := h x (List.argmax_mem hm)
    simp [Nat.not_lt.2 hx]

theorem argmax_filter_sorted {l : List Span} (h : l.Pairwise fun a b => b.start < a.start) :
    (l.filter fun s => decide (s.name ≠ [])).argmax start =
      l.find? fun s => decide (s.name ≠ []) := by
  induction l with
  | nil => rfl
  | cons s l ih =>
    obtain ⟨hs, hl⟩ := List.pairwise_cons.1 h
    by_cases hname : s.name = []
    · simpa [hname] using ih hl
    · have hle : ∀ x ∈ l.filter (fun s => decide (s.name ≠ [])), x.start ≤ s.start :=
        fun x hx => Nat.le_of_lt (hs x (List.mem_of_mem_filter hx))
      rw [List.filter_cons_of_pos (by simpa using hname), argmax_cons_of_le hle,
        List.find?_cons_of_pos (by simpa using hname)]

theorem colorAt_eq {p : Palette} {spans : List Span} {i : Nat} {stack : List (Text × Nat)}
    (h : (spans.filter fun s => decide (s.start < i ∧ i < s.stop)).map
      (fun s => (s.name, s.start)) = stack)
    (hsorted : stack.Pairwise fun a b => b.2 < a.2) :
    colorAt p spans i = (stack.find? fun e => decide (e.1 ≠ [])).bind fun e => p.color? e.1 := by
  subst h
  have hl := List.pairwise_map.1 hsorted
  have hsplit : (spans.filter fun s => decide (s.name ≠ [] ∧ s.start < i ∧ i < s.stop)) =
      (spans.filter fun s => decide (s.start < i ∧ i < s.stop)).filter
        fun s => decide (s.name ≠ []) := by
    simp [List.filter_filter]
  rw [colorAt, innermost?, hsplit, argmax_filter_sorted hl, List.find?_map, Option.bind_map]
  rfl

end Span

end Listing
