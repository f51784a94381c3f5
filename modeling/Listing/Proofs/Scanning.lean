import Mathlib
import Listing.Proofs.Paint.Unresolved
import Listing.Proofs.Template.Balance
import Listing.Proofs.Template.Broken
import Listing.Template.Tree

namespace Listing

open Text

namespace Template

def Part.bodyStart (p : Part) (n : Nat) : Nat := n + p.head.size + 2

def Part.stop (p : Part) (n : Nat) : Nat := n + p.head.size + p.body.size + 3

/-- A directive lies in a text from byte `n` on. Its head reaches up to the first separator, and its
body up to the closer of the delimiter at byte `start`. -/
structure Part.LiesAt (p : Part) (t : Text) (n : Nat) (separator opener closer : Char)
    (start : Nat) : Prop where
  order : n < p.bodyStart n ∧ p.bodyStart n ≤ p.stop n - 1 ∧ p.stop n - 1 < p.stop n ∧
    p.stop n ≤ t.size
  head_eq : t.utf8.extract (n + 1) (p.bodyStart n - 1) = p.head.utf8
  separator_at : t.utf8[p.bodyStart n - 1]? = some separator.toUInt8
  first : separator ∉ p.head
  body_eq : t.utf8.extract (p.bodyStart n) (p.stop n - 1) = p.body.utf8
  closer_at : t.utf8[p.stop n - 1]? = some closer.toUInt8
  partner : closingAt? opener closer t start = some (p.stop n - 1)
  boundaries : ∀ m ∈ [n, n + 1, p.bodyStart n - 1, p.bodyStart n, p.stop n - 1, p.stop n],
    t.IsBoundary m

/-- A text in which a directive is written out has its parts where they should be. -/
theorem Part.liesAt {p : Part} {before t : Text} {c separator opener closer : Char} {start : Nat}
    (hc : IsAscii c) (hseparator : IsAscii separator) (hcloser : IsAscii closer)
    (ht : t = before ++ c :: (p.head ++ separator :: p.body ++ closer :: p.rest))
    (hfirst : separator ∉ p.head)
    (hpartner : closingAt? opener closer t start = some (p.stop before.size - 1)) :
    p.LiesAt t before.size separator opener closer start := by
  have hinner : t = before ++ [c] ++ (p.head ++ separator :: p.body ++ closer :: p.rest) := by
    simp [ht]
  have hhead : t = before ++ [c] ++ p.head ++ (separator :: p.body ++ closer :: p.rest) := by
    simp [ht]
  have hstart : t = before ++ [c] ++ p.head ++ [separator] ++ (p.body ++ closer :: p.rest) := by
    simp [ht]
  have hbody : t = before ++ [c] ++ p.head ++ [separator] ++ p.body ++ closer :: p.rest := by
    simp [ht]
  have hrest : t = before ++ [c] ++ p.head ++ [separator] ++ p.body ++ [closer] ++ p.rest := by
    simp [ht]
  have hsize : size (before ++ [c]) = before.size + 1 := by simp [hc.utf8Size_eq]
  have hsizeHead : size (before ++ [c] ++ p.head) = p.bodyStart before.size - 1 := by
    rw [size_append, hsize, Part.bodyStart]
    omega
  have hsizeBody : size (before ++ [c] ++ p.head ++ [separator]) = p.bodyStart before.size := by
    rw [size_append, hsizeHead, size_cons, hseparator.utf8Size_eq, size_nil, Part.bodyStart]
    omega
  have hsizeCloser : size (before ++ [c] ++ p.head ++ [separator] ++ p.body) =
      p.stop before.size - 1 := by
    rw [size_append, hsizeBody, Part.bodyStart, Part.stop]
    omega
  have hsizeRest : size (before ++ [c] ++ p.head ++ [separator] ++ p.body ++ [closer]) =
      p.stop before.size := by
    rw [size_append, hsizeCloser, size_cons, hcloser.utf8Size_eq, size_nil, Part.stop]
    omega
  have hboundary := isBoundary_of_eq_append hrest hsizeRest
  constructor
  · have hle := hboundary.le
    simp only [Part.bodyStart, Part.stop] at hle ⊢
    omega
  · exact extract_utf8 hhead hsize hsizeHead
  · rw [hhead, ← hsizeHead]
    exact hseparator.getElem?_utf8 _ _
  · exact hfirst
  · exact extract_utf8 hbody hsizeBody hsizeCloser
  · rw [hbody, ← hsizeCloser]
    exact hcloser.getElem?_utf8 _ _
  · exact hpartner
  · simp only [List.forall_mem_cons, List.not_mem_nil, false_imp_iff, implies_true, and_true]
    exact ⟨isBoundary_of_eq_append ht rfl, isBoundary_of_eq_append hinner hsize,
      isBoundary_of_eq_append hhead hsizeHead, isBoundary_of_eq_append hstart hsizeBody,
      isBoundary_of_eq_append hbody hsizeCloser, hboundary⟩

section Delimited

variable {t before r : Text} {p : Part} {c : Char}

theorem isAscii_of_mem (hc : c ∈ ['?', '@']) : IsAscii c := by
  simp only [List.mem_cons, List.not_mem_nil, or_false] at hc
  obtain rfl | rfl := hc <;> decide

theorem liesAt_bracketed (ht : t = before ++ '[' :: r) (h : bracketed r = .ok p) :
    p.LiesAt t before.size ':' '[' ']' before.size := by
  obtain ⟨hclosed, hfirst⟩ := closed_of_bracketed h
  have hr := bracketed_eq_ok h
  refine Part.liesAt (c := '[') (by decide) (by decide) (by decide) (by rw [ht, hr]) hfirst ?_
  have hcolon : ':'.utf8Size = 1 := by decide
  rw [ht, hr, closingAt?_size, closing_append (by decide) hclosed, Option.map_some, size_append,
    size_cons, hcolon, Part.stop]
  congr 1
  omega

theorem liesAt_braced (hc : c ∈ ['?', '@']) (ht : t = before ++ c :: r) (h : braced r = .ok p) :
    p.LiesAt t before.size '{' '{' '}' (p.bodyStart before.size - 1) := by
  obtain ⟨hclosed, hfirst⟩ := closed_of_braced h
  have hascii := isAscii_of_mem hc
  have hr := braced_eq_ok h
  refine Part.liesAt hascii (by decide) (by decide) (by rw [ht, hr]) hfirst ?_
  have hopener : t = (before ++ c :: p.head) ++ '{' :: (p.body ++ '}' :: p.rest) := by
    simp [ht, hr]
  have hsize : size (before ++ c :: p.head) = p.bodyStart before.size - 1 := by
    rw [size_append, size_cons, hascii.utf8Size_eq, Part.bodyStart]
    omega
  rw [hopener, ← hsize, closingAt?_size, closing_append (by decide) hclosed, Option.map_some, hsize,
    Part.bodyStart, Part.stop]
  dsimp only
  congr 1
  omega

end Delimited

/-- The text that is searched for the closer of a delimiter, and the position of that delimiter: the
bracket of a color span, the first brace behind the start of a condition or a call, and the brace
behind the name of a call inside an argument. -/
inductive Searches (t : Text) : Char → Char → Nat → Text → Prop
  | span {before r : Text} : t = before ++ '[' :: r → Searches t '[' ']' before.size r
  | block {before r head u : Text} {c : Char} : c ∈ ['?', '@'] → t = before ++ c :: r →
      Text.cut '{' r = some (head, u) → Searches t '{' '}' (before.size + 1 + head.size) u
  | innerCall {before r u : Text} : t = before ++ '@' :: r →
      (r.dropWhile fun c => !endsCallName c) = '{' :: u →
      Searches t '{' '}' (before.size + 1 + size (r.takeWhile fun c => !endsCallName c)) u

theorem Searches.at_opener {t r : Text} {opener closer : Char} {start : Nat}
    (h : Searches t opener closer start r) :
    IsAscii opener ∧ IsAscii closer ∧ opener ≠ closer ∧
      ∃ before, t = before ++ opener :: r ∧ before.size = start := by
  cases h with
  | span ht => exact ⟨by decide, by decide, by decide, _, ht, rfl⟩
  | @block before _ head _ c hc ht hcut =>
    refine ⟨by decide, by decide, by decide, before ++ c :: head, ?_, ?_⟩
    · rw [ht, cut_eq_some hcut]
      simp
    · rw [size_append, size_cons, (isAscii_of_mem hc).utf8Size_eq, Nat.add_assoc]
  | @innerCall before r u ht hdrop =>
    have hat : '@'.utf8Size = 1 := by decide
    refine ⟨by decide, by decide, by decide, before ++ '@' :: r.takeWhile fun c => !endsCallName c,
      ?_, ?_⟩
    · rw [ht, List.append_assoc, List.cons_append, ← hdrop, List.takeWhile_append_dropWhile]
    · rw [size_append, size_cons, hat, Nat.add_assoc]

/-- The counter of open delimiters does not fall below zero, and leads to the closer. -/
theorem Searches.search_eq {t r : Text} {opener closer : Char} {start : Nat}
    (h : Searches t opener closer start r) :
    search opener.toUInt8 closer.toUInt8 start 0 (t.utf8.drop start) =
      .ok ((closing opener closer 0 r).map fun q => start + 1 + q.1.size) := by
  obtain ⟨ho, hc, hne, before, rfl, rfl⟩ := h.at_opener
  rw [search_closingAt? ho hc hne (ho.getElem?_utf8 before r), closingAt?_size]

theorem isBoundary_valueName {t before r : Text} (ht : t = before ++ '$' :: r) :
    t.IsBoundary (before.size + 1 + (valueName r).size) := by
  have hdollar : '$'.utf8Size = 1 := by decide
  have hr : valueName r ++ r.drop (valueName r).length = r :=
    List.prefix_iff_eq_append.1 (List.takeWhile_prefix _)
  have hname : t = (before ++ '$' :: valueName r) ++ r.drop (valueName r).length := by
    rw [List.append_assoc, List.cons_append, hr, ht]
  refine isBoundary_of_eq_append hname ?_
  rw [size_append, size_cons, hdollar, Nat.add_assoc]

theorem read_dollar_eq (pos : Nat) (r : Text) :
    read pos ('$' :: r) =
      if valueName r = [] then .literal '$' (read (pos + 1 + (valueName r).size) r)
      else .value (valueName r)
        (read (pos + 1 + (valueName r).size) (r.drop (valueName r).length)) := by
  split
  · next h => rw [read_dollar pos h, h, size_nil, Nat.add_zero]
  · next h => rw [read_value pos h]

end Template

namespace Token

theorem size_raw_pos (tok : Token) : 0 < Text.size tok.raw := by
  cases tok with
  | glyph c | escaped c | opening name offset | closing =>
    exact Nat.lt_of_lt_of_le (Char.utf8Size_pos _) (Nat.le_add_right _ _)

theorem size_flatMap_raw_pos {ts : List Token} (hts : ts ≠ []) :
    0 < Text.size (ts.flatMap raw) := by
  obtain ⟨tok, ts, rfl⟩ := List.exists_cons_of_ne_nil hts
  rw [List.flatMap_cons, Text.size_append]
  exact Nat.lt_of_lt_of_le (size_raw_pos tok) (Nat.le_add_right _ _)

/-- Behind some tokens, reading goes on where their text ends. -/
theorem exists_readFrom {pos : Nat} {t : Text} {before after : List Token}
    (h : readFrom pos t = before ++ after) : ∃ rest, t = before.flatMap raw ++ rest ∧
      after = readFrom (pos + Text.size (before.flatMap raw)) rest := by
  induction before generalizing pos t with
  | nil => exact ⟨t, rfl, h.symm⟩
  | cons tok before ih =>
    obtain ⟨-, u, hu⟩ := readFrom_eq_cons h
    change before ++ after = _ at hu
    obtain ⟨rest, rfl, hafter⟩ := ih hu.symm
    refine ⟨rest, ?_, ?_⟩
    · have hraw := flatMap_raw_readFrom pos t
      rw [h, List.cons_append, List.flatMap_cons, hu, flatMap_raw_readFrom] at hraw
      rw [← hraw, List.flatMap_cons, List.append_assoc]
    · rw [hafter, List.flatMap_cons, Text.size_append, Nat.add_assoc]

end Token

open Template in
/-- All that a scan of a text computes from sizes lies in the text: the parts of its directives, the
closers that are searched for, the ends of the names of values, and the tokens, also when several of
them are read at once. -/
theorem scanning_stays_in_text (t : Text) :
    (∀ before r p, t = before ++ '[' :: r → bracketed r = .ok p →
      p.LiesAt t before.size ':' '[' ']' before.size ∧
      read before.size ('[' :: r) = .span p.head (subject? p.body)
        (read (p.bodyStart before.size) p.body) (read (p.stop before.size) p.rest)) ∧
    (∀ before r p, t = before ++ '?' :: r → braced r = .ok p →
      p.LiesAt t before.size '{' '{' '}' (p.bodyStart before.size - 1) ∧
      read before.size ('?' :: r) = .condition p.head
        (read (p.bodyStart before.size) p.body) (read (p.stop before.size) p.rest)) ∧
    (∀ before r p, t = before ++ '@' :: r → braced r = .ok p →
      p.LiesAt t before.size '{' '{' '}' (p.bodyStart before.size - 1) ∧
      read before.size ('@' :: r) = .call p.head (arguments p.body)
        ((located (p.bodyStart before.size) (arguments p.body)).findSome? fun a =>
          (read a.1 a.2).defect?)
        (read (p.stop before.size) p.rest)) ∧
    (∀ opener closer start r, Searches t opener closer start r →
      search opener.toUInt8 closer.toUInt8 start 0 (t.utf8.drop start) =
        .ok ((closing opener closer 0 r).map fun q => start + 1 + q.1.size)) ∧
    (∀ before r m, t = before ++ '$' :: r → m = before.size + 1 + (valueName r).size →
      before.size + 1 ≤ m ∧ m ≤ t.size ∧ t.IsBoundary m ∧
      read before.size ('$' :: r) =
        if valueName r = [] then .literal '$' (read m r)
        else .value (valueName r) (read m (r.drop (valueName r).length))) ∧
    (∀ before run after, Token.ofText t = before ++ run ++ after → run ≠ [] →
      1 ≤ Text.size (run.flatMap Token.raw) ∧
      t.IsBoundary (Text.size (before.flatMap Token.raw)) ∧
      t.IsBoundary (Text.size ((before ++ run).flatMap Token.raw)) ∧
      ∃ rest, t = (before ++ run).flatMap Token.raw ++ rest ∧
        after = Token.readFrom (Text.size ((before ++ run).flatMap Token.raw)) rest) ∧
    (Token.ofText t).flatMap Token.raw = t := by
  refine ⟨?_, ?_, ?_, fun _ _ _ _ h => h.search_eq, ?_, ?_, Token.flatMap_raw_readFrom 0 t⟩
  · intro before r p ht hp
    exact ⟨liesAt_bracketed ht hp, read_span before.size hp⟩
  · intro before r p ht hp
    exact ⟨liesAt_braced (by decide) ht hp, read_condition before.size hp⟩
  · intro before r p ht hp
    exact ⟨liesAt_braced (by decide) ht hp, read_call before.size hp⟩
  · rintro before r m ht rfl
    have hboundary := isBoundary_valueName ht
    exact ⟨Nat.le_add_right _ _, hboundary.le, hboundary, read_dollar_eq before.size r⟩
  · intro before run after hts hne
    have hfirst : Token.readFrom 0 t = before ++ (run ++ after) := by
      rw [← List.append_assoc]
      exact hts
    obtain ⟨u, hu, -⟩ := Token.exists_readFrom hfirst
    obtain ⟨rest, hrun, hafter⟩ := Token.exists_readFrom hts
    rw [Nat.zero_add] at hafter
    exact ⟨Token.size_flatMap_raw_pos hne, isBoundary_of_eq_append hu rfl,
      isBoundary_of_eq_append hrun rfl, rest, hrun, hafter⟩

open Template in
theorem scanning_stays_in_text_nested : ∃ t : Text, t = "é[a:?k\x7b@f\x7b$ü\x7d\x7d]" ∧
    (∃ p : Part, p.body = "?k\x7b@f\x7b$ü\x7d\x7d" ∧ p.LiesAt t 2 ':' '[' ']' 2) ∧
    (∃ p : Part, p.body = "@f\x7b$ü\x7d" ∧ p.LiesAt t 5 '{' '{' '}' 7) ∧
    (∃ p : Part, p.body = "$ü" ∧ p.LiesAt t 8 '{' '{' '}' 10) ∧
    search '{'.toUInt8 '}'.toUInt8 7 0 (t.utf8.drop 7) = .ok (some 15) ∧
    search '{'.toUInt8 '}'.toUInt8 10 0 (t.utf8.drop 10) = .ok (some 14) ∧
    (17 ≤ t.size ∧ t.IsBoundary 17) ∧
    (Token.ofText t).take 2 = [.glyph 'é', .opening "a" 2] ∧ t.IsBoundary 2 ∧ t.IsBoundary 5 := by
  obtain ⟨hspan, hcondition, hcall, hsearch, hvalue, htokens, -⟩ :=
    scanning_stays_in_text "é[a:?k\x7b@f\x7b$ü\x7d\x7d]"
  have houter := hsearch '{' '}' 7 _
    (@Searches.block _ "é[a:" "k\x7b@f\x7b$ü\x7d\x7d]" "k" _ '?' (by decide) (by cbv) (by cbv))
  have hinner := hsearch '{' '}' 10 _
    (@Searches.innerCall _ "é[a:?k\x7b" "f\x7b$ü\x7d\x7d]" _ (by cbv) (by cbv))
  have hmark := hspan "é" "a:?k\x7b@f\x7b$ü\x7d\x7d]" ⟨"a", "?k\x7b@f\x7b$ü\x7d\x7d", ""⟩
    (by cbv) (by cbv)
  have htest := hcondition "é[a:" "k\x7b@f\x7b$ü\x7d\x7d]" ⟨"k", "@f\x7b$ü\x7d", "]"⟩
    (by cbv) (by cbv)
  have hinvoked := hcall "é[a:?k\x7b" "f\x7b$ü\x7d\x7d]" ⟨"f", "$ü", "\x7d]"⟩
    (by cbv) (by cbv)
  have hname := hvalue "é[a:?k\x7b@f\x7b" "ü\x7d\x7d]" 17 (by cbv) (by cbv)
  have hread : Token.ofText "é[a:?k\x7b@f\x7b$ü\x7d\x7d]" =
      [.glyph 'é'] ++ [.opening "a" 2] ++ (Token.ofText "é[a:?k\x7b@f\x7b$ü\x7d\x7d]").drop 2 := by
    cbv
  have htoken := htokens _ _ _ hread (by decide)
  refine ⟨_, rfl, ⟨_, rfl, hmark.1⟩, ⟨_, rfl, htest.1⟩, ⟨_, rfl, hinvoked.1⟩, ?_, ?_,
    ⟨hname.2.1, hname.2.2.1⟩, ?_, htoken.2.1, htoken.2.2.1⟩
  · exact houter.trans (by cbv)
  · exact hinner.trans (by cbv)
  · cbv

end Listing
