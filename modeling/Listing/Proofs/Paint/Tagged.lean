import Listing.Proofs.Paint.Stacks

namespace Listing

inductive Tagged
  | done
  | text (s : Text) (rest : Tagged)
  | span (name : Text) (body rest : Tagged)

namespace Tagged

def encode : Tagged → Text
  | done => []
  | text s rest => escape s ++ rest.encode
  | span name body rest => '[' :: name ++ ':' :: body.encode ++ ']' :: rest.encode

/-- A span has a name that can be read back, and that is empty or has a color. -/
def WellFormed (p : Palette) : Tagged → Prop
  | done => True
  | text _ rest => rest.WellFormed p
  | span name body rest =>
    (∀ c ∈ name, c ∉ [':', '[', ']', '\\', '\n']) ∧ (name = [] ∨ (p.color? name).isSome) ∧
      body.WellFormed p ∧ rest.WellFormed p

def texts : Tagged → Text
  | done => []
  | text s rest => s ++ rest.texts
  | span _ body rest => body.texts ++ rest.texts

/-- The characters in the colors of the innermost named spans around them, of which the last has
this color, with a boundary at each end of a named span. -/
def pieces (p : Palette) (k : Option TerminalColor) : Tagged → Pieces
  | done => []
  | text s rest => s.map (fun c => some (c, k)) ++ rest.pieces p k
  | span name body rest =>
    if name = [] then body.pieces p k ++ rest.pieces p k
    else none :: body.pieces p (p.color? name) ++ none :: rest.pieces p k

/-- What a terminal is sent: each run between two boundaries in its color. -/
def rendering (p : Palette) (d : Tagged) : Text := (d.pieces p none).runs.flatMap Pieces.dyed

end Tagged

namespace Token

def ofChar (c : Char) : Token := if isMark c then escaped c else glyph c

theorem escape_cons (c : Char) (s : Text) : escape (c :: s) = (ofChar c).raw ++ escape s := by
  rw [escape, List.flatMap_cons, ← escape]
  congr 1
  unfold ofChar
  by_cases hc : isMark c = true
  · rw [if_pos hc, if_pos hc]
    rfl
  · rw [if_neg hc, if_neg hc]
    rfl

theorem utf8Size_of_isMark {c : Char} (hc : isMark c = true) : c.utf8Size = 1 := by
  have hcases : c = '[' ∨ c = ']' ∨ c = '\\' := by simpa [isMark, or_assoc] using hc
  obtain rfl | rfl | rfl := hcases <;> rfl

theorem readFrom_escaped (pos : Nat) {c : Char} (hc : isMark c = true) (t : Text) :
    readFrom pos ('\\' :: c :: t) = escaped c :: readFrom (pos + 2) t := by
  rw [readFrom]
  exact if_pos hc

theorem readFrom_glyph (pos : Nat) {c : Char} (hc : ¬isMark c = true) (t : Text) :
    readFrom pos (c :: t) = glyph c :: readFrom (pos + c.utf8Size) t := by
  rw [readFrom.eq_def]
  split
  · next h => cases h
  · next h =>
    obtain ⟨rfl, _⟩ := List.cons.inj h
    exact absurd rfl hc
  · next h =>
    obtain ⟨rfl, _⟩ := List.cons.inj h
    exact absurd rfl hc
  · next h =>
    obtain ⟨rfl, _⟩ := List.cons.inj h
    exact absurd rfl hc
  · next h =>
    obtain ⟨rfl, rfl⟩ := List.cons.inj h
    rfl

theorem readFrom_ofChar (pos : Nat) (c : Char) (t : Text) :
    readFrom pos ((ofChar c).raw ++ t) = ofChar c :: readFrom (pos + (ofChar c).raw.size) t := by
  unfold ofChar
  by_cases hc : isMark c = true
  · have hsize : Text.size ['\\', c] = 2 := by
      rw [Text.size_cons, Text.size_cons, utf8Size_of_isMark hc]
      rfl
    rw [if_pos hc, raw, hsize]
    exact readFrom_escaped pos hc t
  · rw [if_neg hc]
    exact readFrom_glyph pos hc t

theorem readFrom_escape (pos : Nat) (s t : Text) :
    readFrom pos (escape s ++ t) = s.map ofChar ++ readFrom (pos + (escape s).size) t := by
  induction s generalizing pos with
  | nil => rfl
  | cons c s ih =>
    rw [escape_cons, List.append_assoc, readFrom_ofChar, ih, Text.size_append, Nat.add_assoc]
    rfl

theorem spanName_append {name : Text} (hname : ∀ c ∈ name, endsName c = false) (t : Text) :
    spanName (name ++ ':' :: t) = some (name, t) := by
  have hkeep : ∀ c ∈ name, (!endsName c) = true := fun c hc => by simp [hname c hc]
  rw [spanName, List.dropWhile_append_of_pos hkeep, List.takeWhile_append_of_pos hkeep]
  change some (name ++ [], t) = some (name, t)
  rw [List.append_nil]

theorem readFrom_opening (pos : Nat) {name : Text} (hname : ∀ c ∈ name, endsName c = false)
    (t : Text) :
    readFrom pos ('[' :: (name ++ ':' :: t)) =
      opening name pos :: readFrom (pos + name.size + 2) t := by
  rw [readFrom]
  split
  · next h =>
    cases (spanName_append hname t).symm.trans h
    rfl
  · next h => cases (spanName_append hname t).symm.trans h

theorem readFrom_closing (pos : Nat) (t : Text) :
    readFrom pos (']' :: t) = closing :: readFrom (pos + 1) t := by
  rw [readFrom]

end Token

namespace Tagged

variable {p : Palette}

def tokens : Tagged → Nat → List Token
  | done, _ => []
  | text s rest, pos => s.map Token.ofChar ++ rest.tokens (pos + (escape s).size)
  | span name body rest, pos =>
    .opening name pos :: body.tokens (pos + name.size + 2) ++
      .closing :: rest.tokens (pos + name.size + 2 + body.encode.size + 1)

theorem endsName_eq_false {c : Char} (hc : c ∉ [':', '[', ']', '\\', '\n']) :
    Token.endsName c = false := by
  simpa [Token.endsName, isMark, and_assoc] using hc

theorem WellFormed.readFrom_encode {d : Tagged} (h : d.WellFormed p) (pos : Nat) (t : Text) :
    Token.readFrom pos (d.encode ++ t) =
      d.tokens pos ++ Token.readFrom (pos + d.encode.size) t := by
  induction d generalizing pos t with
  | done => rfl
  | text s rest ih =>
    rw [encode, List.append_assoc, Token.readFrom_escape, ih h, tokens, List.append_assoc,
      Text.size_append, Nat.add_assoc]
  | span name body rest ihbody ihrest =>
    obtain ⟨hname, _, hbody, hrest⟩ := h
    have hends : ∀ c ∈ name, Token.endsName c = false := fun c hc => endsName_eq_false (hname c hc)
    have hencode : (span name body rest).encode ++ t =
        '[' :: (name ++ ':' :: (body.encode ++ ']' :: (rest.encode ++ t))) := by
      simp [encode]
    have hsize : (span name body rest).encode.size =
        name.size + 2 + body.encode.size + 1 + rest.encode.size := by
      have hopen : '['.utf8Size = 1 := rfl
      have hclose : ']'.utf8Size = 1 := rfl
      have hcolon : ':'.utf8Size = 1 := rfl
      simp only [encode, Text.size_append, Text.size_cons, hopen, hclose, hcolon]
      omega
    rw [hencode, Token.readFrom_opening pos hends, ihbody hbody, Token.readFrom_closing,
      ihrest hrest, hsize, tokens]
    simp [Nat.add_assoc]

theorem ofText_encode {d : Tagged} (h : d.WellFormed p) :
    Token.ofText d.encode = d.tokens 0 := by
  have hread := h.readFrom_encode 0 []
  rw [List.append_nil, Token.readFrom, List.append_nil] at hread
  exact hread

theorem closed_ofChar (s : Text) (ts : List Token) :
    Span.closed (s.map Token.ofChar ++ ts) = Span.closed ts := by
  induction s with
  | nil => rfl
  | cons c s ih =>
    rw [List.map_cons, List.cons_append, ← ih, Token.ofChar]
    by_cases hc : isMark c = true
    · rw [if_pos hc]
      rfl
    · rw [if_neg hc]
      rfl

/-- A document closes all that it opens, and nothing else. -/
theorem closed_tokens (d : Tagged) (pos : Nat) (ts : List Token) :
    Span.closed (d.tokens pos ++ ts) = Span.closed ts := by
  induction d generalizing pos ts with
  | done => rfl
  | text s rest ih => rw [tokens, List.append_assoc, closed_ofChar, ih]
  | span name body rest ihbody ihrest =>
    rw [tokens, List.append_assoc, List.cons_append, Span.closed, ihbody, List.cons_append,
      Span.closed, ihrest, Nat.add_sub_cancel]

def strokes (p : Palette) : Tagged → List (Option TerminalColor) → List Stroke
  | done, _ => []
  | text s rest, stack =>
    s.map (fun c => Stroke.mark c (Token.ofChar c).raw) ++ rest.strokes p stack
  | span name body rest, stack =>
    .enter (Span.tint p name) ('[' :: name ++ [':']) ::
        body.strokes p (Span.tint p name :: stack) ++
      .leave (Span.tint p name) (stack.findSome? id) :: rest.strokes p stack

theorem ofTokens_ofChar {stack : List (Option TerminalColor)} {ts : List Token}
    {ss : List Stroke} (hss : Stroke.ofTokens p stack ts = .ok ss) (s : Text) :
    Stroke.ofTokens p stack (s.map Token.ofChar ++ ts) =
      .ok (s.map (fun c => Stroke.mark c (Token.ofChar c).raw) ++ ss) := by
  induction s with
  | nil => exact hss
  | cons c s ih =>
    rw [List.map_cons, List.cons_append, List.map_cons, List.cons_append, Token.ofChar]
    by_cases hc : isMark c = true
    · rw [if_pos hc, Stroke.ofTokens, ih]
      rfl
    · rw [if_neg hc, Stroke.ofTokens, ih]
      rfl

theorem ofTokens_opening {name : Text} {offset : Nat} {k : Option TerminalColor}
    {stack : List (Option TerminalColor)} {ts : List Token} {ss : List Stroke}
    (hcloses : Stroke.closes 0 ts = true) (hk : Stroke.spanColor p name offset = .ok k)
    (hss : Stroke.ofTokens p (k :: stack) ts = .ok ss) :
    Stroke.ofTokens p stack (.opening name offset :: ts) =
      .ok (.enter k (Token.opening name offset).raw :: ss) := by
  rw [Stroke.ofTokens, if_pos hcloses, hk]
  change (do
    let strokes ← Stroke.ofTokens p (k :: stack) ts
    return Stroke.enter k (Token.opening name offset).raw :: strokes) = _
  rw [hss]
  rfl

theorem WellFormed.ofTokens_tokens {d : Tagged} (h : d.WellFormed p) (pos : Nat)
    {stack : List (Option TerminalColor)} {ts : List Token} {ss : List Stroke}
    (hss : Stroke.ofTokens p stack ts = .ok ss) :
    Stroke.ofTokens p stack (d.tokens pos ++ ts) = .ok (d.strokes p stack ++ ss) := by
  induction d generalizing pos stack ts ss with
  | done => exact hss
  | text s rest ih =>
    rw [tokens, List.append_assoc, ofTokens_ofChar (ih h _ hss), strokes, List.append_assoc]
  | span name body rest ihbody ihrest =>
    obtain ⟨_, hcolor, hbody, hrest⟩ := h
    have hafter := ihrest hrest (pos + name.size + 2 + body.encode.size + 1) hss
    have hclose : Stroke.ofTokens p (Span.tint p name :: stack) (.closing ::
        (rest.tokens (pos + name.size + 2 + body.encode.size + 1) ++ ts)) =
        .ok (.leave (Span.tint p name) (stack.findSome? id) :: (rest.strokes p stack ++ ss)) := by
      rw [Stroke.ofTokens, hafter]
      rfl
    have hinside := ihbody hbody (pos + name.size + 2) hclose
    have hcloses : Stroke.closes 0 (body.tokens (pos + name.size + 2) ++ .closing ::
        (rest.tokens (pos + name.size + 2 + body.encode.size + 1) ++ ts)) = true := by
      rw [Span.closes_eq, closed_tokens, Span.closed]
      simp
    have hk : Stroke.spanColor p name pos = .ok (Span.tint p name) :=
      Span.spanColor_eq_ok_iff.2 ⟨rfl, fun hne => hcolor.resolve_left hne⟩
    have hspan := ofTokens_opening hcloses hk hinside
    simpa [tokens, strokes, Token.raw] using hspan

theorem shown_strokes (d : Tagged) (stack : List (Option TerminalColor)) :
    (d.strokes p stack).flatMap Stroke.shown = d.texts := by
  induction d generalizing stack with
  | done => rfl
  | text s rest ih =>
    rw [strokes, List.flatMap_append, ih, List.flatMap_map, texts]
    congr 1
    exact List.flatMap_singleton' s
  | span name body rest ihbody ihrest =>
    rw [strokes, List.flatMap_append, List.flatMap_cons, ihbody, List.flatMap_cons, ihrest]
    rfl

theorem source_ofChar (s : Text) :
    (s.map fun c => Stroke.mark c (Token.ofChar c).raw).flatMap Stroke.source = escape s := by
  induction s with
  | nil => rfl
  | cons c s ih => rw [List.map_cons, List.flatMap_cons, ih, Token.escape_cons, Stroke.source]

theorem source_strokes (d : Tagged) (stack : List (Option TerminalColor)) :
    (d.strokes p stack).flatMap Stroke.source = d.encode := by
  induction d generalizing stack with
  | done => rfl
  | text s rest ih => rw [strokes, List.flatMap_append, ih, source_ofChar, encode]
  | span name body rest ihbody ihrest =>
    rw [strokes, List.flatMap_append, List.flatMap_cons, ihbody, List.flatMap_cons, ihrest, encode]
    simp [Stroke.source]

theorem pieces_mark (k : Option TerminalColor) (s : Text) (raw : Char → Text) (ss : List Stroke) :
    Stroke.pieces k (s.map (fun c => Stroke.mark c (raw c)) ++ ss) =
      s.map (fun c => some (c, k)) ++ Stroke.pieces k ss := by
  induction s with
  | nil => rfl
  | cons c s ih => exact congrArg (some (c, k) :: ·) ih

theorem WellFormed.pieces_strokes {d : Tagged} (h : d.WellFormed p)
    (stack : List (Option TerminalColor)) (ss : List Stroke) :
    Stroke.pieces (stack.findSome? id) (d.strokes p stack ++ ss) =
      d.pieces p (stack.findSome? id) ++ Stroke.pieces (stack.findSome? id) ss := by
  induction d generalizing stack ss with
  | done => rfl
  | text s rest ih => rw [strokes, List.append_assoc, pieces_mark, ih h, pieces, List.append_assoc]
  | span name body rest ihbody ihrest =>
    obtain ⟨_, hcolor, hbody, hrest⟩ := h
    have hrest' := ihrest hrest stack ss
    by_cases hname : name = []
    · have htint : Span.tint p name = none := if_pos hname
      have hinside := ihbody hbody (none :: stack)
        (.leave none (stack.findSome? id) :: (rest.strokes p stack ++ ss))
      have htop : (none :: stack).findSome? id = stack.findSome? id := rfl
      rw [htop, Stroke.pieces, hrest'] at hinside
      rw [strokes, pieces, if_pos hname, htint, List.append_assoc, List.append_assoc]
      exact hinside
    · obtain ⟨k, hk⟩ := Option.isSome_iff_exists.1 (hcolor.resolve_left hname)
      have htint : Span.tint p name = some k := (if_neg hname).trans hk
      have hinside := ihbody hbody (some k :: stack)
        (.leave (some k) (stack.findSome? id) :: (rest.strokes p stack ++ ss))
      rw [Stroke.pieces, hrest'] at hinside
      rw [strokes, pieces, if_neg hname, htint, hk, List.append_assoc, List.append_assoc]
      exact congrArg (none :: ·) hinside

/-- Painting gives back what a document was put together from: its texts without the colors, its
form in tagged text, and its runs in their colors. -/
theorem paint_encode {d : Tagged} (h : d.WellFormed p) :
    paint p .plain d.encode = .ok d.texts ∧ paint p .tagged d.encode = .ok d.encode ∧
      paint p .colored d.encode = .ok (d.rendering p) := by
  have hstrokes : Stroke.ofText p d.encode = .ok (d.strokes p []) := by
    have htokens : Stroke.ofTokens p [] (d.tokens 0 ++ []) = .ok (d.strokes p [] ++ []) :=
      h.ofTokens_tokens 0 rfl
    rw [List.append_nil, List.append_nil, ← ofText_encode h] at htokens
    exact htokens
  have hpieces : Stroke.pieces none (d.strokes p []) = d.pieces p none := by
    have hall := h.pieces_strokes [] []
    rw [List.append_nil] at hall
    exact hall.trans (List.append_nil _)
  refine ⟨?_, ?_, ?_⟩
  · rw [paint, hstrokes]
    exact congrArg Except.ok (shown_strokes d [])
  · rw [paint, hstrokes]
    exact congrArg Except.ok (source_strokes d [])
  · rw [paint, hstrokes, rendering, ← hpieces, ← Stroke.output_colored]
    rfl

def knotted : Tagged :=
  .text "[Red:" (.span "bug" (.text "a\\" (.span "" (.text "]b" .done)
    (.span "Blue" .done (.text "c" .done)))) (.text ":\n" .done))

theorem wellFormed_knotted : knotted.WellFormed (Palette.ofList [("bug", "red")]) := by
  refine ⟨by simp, .inr rfl, ⟨by simp, .inl rfl, trivial, ?_⟩, trivial⟩
  exact ⟨by simp, .inr rfl, trivial, trivial⟩

theorem paint_encode_knotted :
    knotted.WellFormed (Palette.ofList [("bug", "red")]) ∧
    paint (Palette.ofList [("bug", "red")]) .plain knotted.encode = .ok "[Red:a\\]bc:\n" ∧
    paint (Palette.ofList [("bug", "red")]) .tagged knotted.encode =
      .ok "\\[Red:[bug:a\\\\[:\\]b][Blue:]c]:\n" ∧
    paint (Palette.ofList [("bug", "red")]) .colored knotted.encode =
      .ok "[Red:\x1b[38;5;9ma\\]b\x1b[0m\x1b[38;5;9mc\x1b[0m:\n" :=
  ⟨wellFormed_knotted, paint_encode wellFormed_knotted⟩

end Tagged

end Listing
