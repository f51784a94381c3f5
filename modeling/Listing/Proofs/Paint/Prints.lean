import Listing.Proofs.Paint.Tagged
import Listing.Text.Width

namespace Listing

variable {p : Palette}

namespace Tagged

def append : Tagged → Tagged → Tagged
  | done, d => d
  | text s rest, d => text s (rest.append d)
  | span name body rest, d => span name body (rest.append d)

theorem encode_append (c d : Tagged) : (c.append d).encode = c.encode ++ d.encode := by
  induction c with
  | done => rfl
  | text s rest ih => rw [append, encode, ih, encode, List.append_assoc]
  | span name body rest _ ih => simp [append, encode, ih]

theorem texts_append (c d : Tagged) : (c.append d).texts = c.texts ++ d.texts := by
  induction c with
  | done => rfl
  | text s rest ih => rw [append, texts, ih, texts, List.append_assoc]
  | span name body rest _ ih => rw [append, texts, ih, texts, List.append_assoc]

theorem WellFormed.append {c d : Tagged} (hc : c.WellFormed p) (hd : d.WellFormed p) :
    (c.append d).WellFormed p := by
  induction c with
  | done => exact hd
  | text s rest ih => exact ih hc
  | span name body rest _ ih => exact ⟨hc.1, hc.2.1, hc.2.2.1, ih hc.2.2.2⟩

theorem WellFormed.ofText_encode {d : Tagged} (h : d.WellFormed p) :
    Stroke.ofText p d.encode = .ok (d.strokes p []) := by
  have htokens : Stroke.ofTokens p [] (d.tokens 0 ++ []) = .ok (d.strokes p [] ++ []) :=
    h.ofTokens_tokens 0 rfl
  rw [Stroke.ofText, Tagged.ofText_encode h]
  simpa using htokens

end Tagged

def Unmarked (t : Text) : Prop := ∀ c ∈ t, isMark c = false

instance (t : Text) : Decidable (Unmarked t) := List.decidableBAll _ t

theorem Unmarked.append {s t : Text} (hs : Unmarked s) (ht : Unmarked t) : Unmarked (s ++ t) :=
  fun c hc => (List.mem_append.1 hc).elim (hs c) (ht c)

theorem unmarked_spaces (n : Nat) : Unmarked (Text.spaces n) := by
  intro c hc
  rw [List.eq_of_mem_replicate hc]
  rfl

theorem Unmarked.alignRight {t : Text} (h : Unmarked t) (n : Nat) :
    Unmarked (Text.alignRight n t) :=
  (unmarked_spaces _).append h

theorem Unmarked.alignLeft {t : Text} (h : Unmarked t) (n : Nat) : Unmarked (Text.alignLeft n t) :=
  h.append (unmarked_spaces _)

theorem unmarked_decimal (n : Nat) : Unmarked (Text.decimal n) := by
  intro c hc
  have hdigit : c.isDigit = true := Nat.isDigit_of_mem_toDigits (by decide) (by decide) hc
  cases hmark : isMark c with
  | false => rfl
  | true =>
    simp only [isMark, Bool.or_eq_true, beq_iff_eq] at hmark
    obtain (rfl | rfl) | rfl := hmark <;> cases hdigit

def IsSpanName (name : Text) : Prop := ∀ c ∈ name, c ∉ [':', '[', ']', '\\', '\n']

instance (name : Text) : Decidable (IsSpanName name) := List.decidableBAll _ name

def IsColor (p : Palette) (name : Text) : Prop :=
  IsSpanName name ∧ (name = [] ∨ (p.color? name).isSome)

theorem isColor_nil : IsColor p [] := ⟨nofun, .inl rfl⟩

/-- Tagged text that is painted as this text. -/
def Prints (p : Palette) (tagged plain : Text) : Prop :=
  ∃ d : Tagged, d.WellFormed p ∧ d.encode = tagged ∧ d.texts = plain

namespace Prints

theorem nil : Prints p [] [] := ⟨.done, trivial, rfl, rfl⟩

theorem append {t t' s s' : Text} (h : Prints p t s) (h' : Prints p t' s') :
    Prints p (t ++ t') (s ++ s') := by
  obtain ⟨c, hc, rfl, rfl⟩ := h
  obtain ⟨d, hd, rfl, rfl⟩ := h'
  exact ⟨c.append d, hc.append hd, c.encode_append d, c.texts_append d⟩

theorem escaped (s : Text) : Prints p (escape s) s :=
  ⟨.text s .done, trivial, List.append_nil _, List.append_nil _⟩

theorem escape_eq_self {s : Text} (hs : Unmarked s) : escape s = s := by
  induction s with
  | nil => rfl
  | cons c s ih =>
    rw [escape, List.flatMap_cons, hs c List.mem_cons_self, ← escape,
      ih fun x hx => hs x (List.mem_cons_of_mem _ hx)]
    rfl

theorem literal {s : Text} (hs : Unmarked s) : Prints p s s := by
  have h := escaped (p := p) s
  rwa [escape_eq_self hs] at h

theorem span {name t s : Text} (hname : IsColor p name) (h : Prints p t s) :
    Prints p ('[' :: name ++ ':' :: t ++ [']']) s := by
  obtain ⟨d, hd, rfl, rfl⟩ := h
  exact ⟨.span name d .done, ⟨hname.1, hname.2, hd, trivial⟩, rfl, List.append_nil _⟩

variable {t s : Text}

theorem paint_plain (h : Prints p t s) : paint p .plain t = .ok s := by
  obtain ⟨d, hd, rfl, rfl⟩ := h
  rw [paint, hd.ofText_encode, ← d.shown_strokes []]
  rfl

theorem paint_tagged (h : Prints p t s) : paint p .tagged t = .ok t := by
  obtain ⟨d, hd, rfl, rfl⟩ := h
  rw [paint, hd.ofText_encode]
  exact congrArg Except.ok (Tagged.source_strokes d [])

theorem exists_paint (h : Prints p t s) (m : PaintMode) : ∃ out, paint p m t = .ok out := by
  obtain ⟨d, hd, rfl, rfl⟩ := h
  rw [paint, hd.ofText_encode]
  exact ⟨_, rfl⟩

end Prints

/-- Before a text that closes nothing, the start of a span is seen as it is written. -/
theorem paint_unclosed {name : Text} (hname : IsSpanName name) (s : Text) :
    paint p .plain ('[' :: name ++ ':' :: escape s) = .ok ('[' :: name ++ ':' :: s) := by
  have htokens : Token.ofText ('[' :: name ++ ':' :: escape s) =
      .opening name 0 :: (s.map Token.ofChar ++ []) := by
    have hread := Token.readFrom_escape (0 + name.size + 2) s []
    rw [List.append_nil, Token.readFrom] at hread
    rw [← hread]
    exact Token.readFrom_opening 0 (fun c hc => Tagged.endsName_eq_false (hname c hc)) _
  have hopen : ¬Stroke.closes 0 (s.map Token.ofChar ++ []) = true := by
    rw [Span.closes_eq, Tagged.closed_ofChar]
    decide
  have hrest : Stroke.ofTokens p [] (s.map Token.ofChar ++ []) = .ok _ :=
    Tagged.ofTokens_ofChar rfl _
  have hshown (raw : Char → Text) (s : Text) :
      (s.map fun c => Stroke.mark c (raw c)).flatMap Stroke.shown = s := by
    rw [List.flatMap_map]
    exact List.flatMap_singleton' s
  rw [paint, Stroke.ofText, htokens, Stroke.ofTokens, if_neg hopen, hrest]
  change Except.ok ((Stroke.literal _ ++ _).flatMap Stroke.shown) = _
  rw [List.append_nil, List.flatMap_append, Stroke.literal, hshown, hshown]
  simp [Token.raw]

end Listing
