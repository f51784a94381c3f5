import Mathlib
import Listing.Proofs.Render.Settled

namespace Listing

open Template

variable {C : Type}

/-- What is left of a text, which starts at byte `pos`, without the characters at some positions. -/
inductive Without (P : Nat → Prop) : Nat → Text → Text → Prop
  | nil {pos : Nat} : Without P pos [] []
  | drop {pos : Nat} {c : Char} {t out : Text} : P pos → Without P (pos + c.utf8Size) t out →
      Without P pos (c :: t) out
  | keep {pos : Nat} {c : Char} {t out : Text} : ¬P pos → Without P (pos + c.utf8Size) t out →
      Without P pos (c :: t) (c :: out)

section Without

variable {P Q : Nat → Prop} {pos pos' : Nat} {s t out out' : Text}

theorem positions_cons {R : Nat → Prop} {c : Char}
    (h : ∀ i, pos ≤ i → i < pos + Text.size (c :: t) → R i) :
    R pos ∧ ∀ i, pos + c.utf8Size ≤ i → i < pos + c.utf8Size + t.size → R i := by
  have hc : 0 < c.utf8Size := Char.utf8Size_pos c
  rw [Text.size_cons] at h
  exact ⟨h pos (by omega) (by omega), fun i hi hi' => h i (by omega) (by omega)⟩

theorem without_nil (h : ∀ i, pos ≤ i → i < pos + t.size → P i) : Without P pos t [] := by
  induction t generalizing pos with
  | nil => exact .nil
  | cons c t ih =>
    obtain ⟨hfirst, hrest⟩ := positions_cons h
    exact .drop hfirst (ih hrest)

theorem without_self (h : ∀ i, pos ≤ i → i < pos + t.size → ¬P i) : Without P pos t t := by
  induction t generalizing pos with
  | nil => exact .nil
  | cons c t ih =>
    obtain ⟨hfirst, hrest⟩ := positions_cons h
    exact .keep hfirst (ih hrest)

theorem Without.congr (h : Without P pos t out)
    (hQ : ∀ i, pos ≤ i → i < pos + t.size → (Q i ↔ P i)) : Without Q pos t out := by
  induction h with
  | nil => exact .nil
  | drop hp _ ih =>
    obtain ⟨hfirst, hrest⟩ := positions_cons hQ
    exact .drop (hfirst.2 hp) (ih hrest)
  | keep hp _ ih =>
    obtain ⟨hfirst, hrest⟩ := positions_cons hQ
    exact .keep (mt hfirst.1 hp) (ih hrest)

theorem Without.append (h : Without P pos s out) (h' : Without P pos' t out')
    (hpos : pos' = pos + s.size) : Without P pos (s ++ t) (out ++ out') := by
  induction h with
  | nil =>
    obtain rfl : pos' = _ := hpos
    exact h'
  | drop hp _ ih => exact .drop hp (ih (by rw [hpos, Text.size_cons, Nat.add_assoc]))
  | keep hp _ ih => exact .keep hp (ih (by rw [hpos, Text.size_cons, Nat.add_assoc]))

theorem Without.eq_self (h : Without P pos t out) (hP : ∀ i, ¬P i) : out = t := by
  induction h with
  | nil => rfl
  | drop hp _ _ => exact absurd hp (hP _)
  | keep _ _ ih => rw [ih]

end Without

/-- An automatic span at byte `n` that rendering comes to. It does not come to the arguments of a
call or to what stands before the body of a directive. -/
def AutomaticAt (pos : Nat) (t : Text) (n : Nat) (p : Part) : Prop :=
  ∃ r, Visits (.past fun _ => true) pos t n ('[' :: r) ∧ bracketed r = .ok p ∧
    Text.agrees p.head "auto"

/-- Byte `i` is in the color of an automatic span. -/
def InAutomatic (pos : Nat) (t : Text) (i : Nat) : Prop :=
  ∃ n p, AutomaticAt pos t n p ∧ n < i ∧ i ≤ n + p.head.size

section InAutomatic

variable {pos i : Nat} {t : Text} {p : Part} {c : Char}

theorem InAutomatic.lt (h : InAutomatic pos t i) : pos < i := by
  obtain ⟨n, p, ⟨r, hv, -, -⟩, hi, -⟩ := h
  exact Nat.lt_of_le_of_lt hv.le hi

theorem InAutomatic.lt_end (h : InAutomatic pos t i) : i < pos + t.size := by
  obtain ⟨n, p, ⟨r, hv, hp, -⟩, -, hi⟩ := h
  have hsize := hv.add_size_le
  rw [bracketed_eq_ok hp] at hsize
  simp only [Text.size_cons, Text.size_append] at hsize
  have hbracket : '['.utf8Size = 1 := rfl
  omega

theorem inAutomatic_literal (hc : c ∉ ['[', '?', '@', '$']) :
    InAutomatic pos (c :: t) i ↔ InAutomatic (pos + c.utf8Size) t i := by
  have hne : '[' ≠ c := by
    rintro rfl
    simp at hc
  simp [InAutomatic, AutomaticAt, visits_literal hc, hne]

theorem inAutomatic_value :
    InAutomatic pos ('$' :: t) i ↔
      InAutomatic (pos + 1 + (valueName t).size) (t.drop (valueName t).length) i := by
  simp [InAutomatic, AutomaticAt, visits_value]

theorem inAutomatic_span (hp : bracketed t = .ok p) :
    InAutomatic pos ('[' :: t) i ↔
      (Text.agrees p.head "auto" ∧ pos < i ∧ i ≤ pos + p.head.size) ∨
        InAutomatic (pos + p.head.size + 2) p.body i ∨
        InAutomatic (pos + p.head.size + p.body.size + 3) p.rest i := by
  simp [InAutomatic, AutomaticAt, visits_span hp, or_and_right, exists_or, and_assoc, hp]

theorem inAutomatic_condition (hp : braced t = .ok p) :
    InAutomatic pos ('?' :: t) i ↔
      InAutomatic (pos + p.head.size + 2) p.body i ∨
        InAutomatic (pos + p.head.size + p.body.size + 3) p.rest i := by
  simp [InAutomatic, AutomaticAt, visits_condition hp, or_and_right, exists_or, Route.condition]

theorem inAutomatic_call (hp : braced t = .ok p) :
    InAutomatic pos ('@' :: t) i ↔
      InAutomatic (pos + p.head.size + p.body.size + 3) p.rest i := by
  simp [InAutomatic, AutomaticAt, visits_call hp, Route.arguments]

end InAutomatic

section Settles

variable {P : Nat → Prop} {pos a b : Nat} {x x' body inner rest out : Text}

theorem without_kept (hP : ∀ i, P i ↔ InAutomatic b rest i) (hb : b = pos + x.size)
    (hrest : Without (InAutomatic b rest) b rest out) : Without P pos (x ++ rest) (x ++ out) := by
  refine .append (without_self fun i _ hi h => ?_) (hrest.congr fun i _ _ => hP i) hb
  have hlt := ((hP i).1 h).lt
  omega

theorem without_opened (closer : Char) {H : Nat → Prop}
    (hP : ∀ i, P i ↔ H i ∨ InAutomatic a body i ∨ InAutomatic b rest i) (hH : ∀ i, H i → i < a)
    (ha : a = pos + x.size) (hb : b = a + body.size + closer.utf8Size) (hx : Without P pos x x')
    (hbody : Without (InAutomatic a body) a body inner)
    (hrest : Without (InAutomatic b rest) b rest out) :
    Without P pos (x ++ body ++ closer :: rest) (x' ++ inner ++ closer :: out) := by
  have hbody' : Without P a body inner := by
    apply hbody.congr
    intro i hi hi'
    rw [hP]
    refine ⟨?_, fun h => .inr (.inl h)⟩
    rintro (h | h | h)
    · have hlt := hH i h
      omega
    · exact h
    · have hlt := h.lt
      omega
  have hclosing : ¬P (a + body.size) := by
    rw [hP]
    rintro (h | h | h)
    · have hlt := hH _ h
      omega
    · exact Nat.lt_irrefl _ h.lt_end
    · have hlt := h.lt
      omega
  have hrest' : Without P b rest out := by
    apply hrest.congr
    intro i hi _
    rw [hP]
    refine ⟨?_, fun h => .inr (.inr h)⟩
    rintro (h | h | h)
    · have hlt := hH i h
      omega
    · have hlt := h.lt_end
      omega
    · exact h
  rw [hb] at hrest'
  rw [List.append_assoc, List.append_assoc]
  exact hx.append (hbody'.append (.keep hclosing hrest') rfl) ha

theorem without_color {t : Text} {p : Part} (hp : bracketed t = .ok p) (pos : Nat) :
    Without (InAutomatic pos ('[' :: t)) pos ('[' :: p.head ++ [':'])
      ('[' :: settled p.head ++ [':']) := by
  have hbracket : '['.utf8Size = 1 := rfl
  have hcolon : ':'.utf8Size = 1 := rfl
  have hcolor (i : Nat) (hi : i < pos + p.head.size + 2) : InAutomatic pos ('[' :: t) i ↔
      Text.agrees p.head "auto" ∧ pos < i ∧ i ≤ pos + p.head.size := by
    rw [inAutomatic_span hp]
    refine or_iff_left ?_
    rintro (h | h)
    · have hlt := h.lt
      omega
    · have hlt := h.lt
      omega
  have hhead : Without (InAutomatic pos ('[' :: t)) (pos + '['.utf8Size) p.head
      (settled p.head) := by
    rw [settled]
    split
    · next hauto =>
      exact without_nil fun i hi hi' => (hcolor i (by omega)).2 ⟨hauto, by omega, by omega⟩
    · next hauto =>
      exact without_self fun i hi hi' h => hauto ((hcolor i (by omega)).1 h).1
  have hend : ¬InAutomatic pos ('[' :: t) (pos + '['.utf8Size + p.head.size) := by
    rw [hcolor _ (by omega)]
    omega
  exact .keep (fun h => Nat.lt_irrefl _ h.lt) (hhead.append (.keep hend .nil) rfl)

theorem Settles.without {t out : Text} (h : Settles t out) (pos : Nat) :
    Without (InAutomatic pos t) pos t out := by
  induction h generalizing pos with
  | nil => exact .nil
  | @literal c t out hc _ ih =>
    exact without_kept (x := [c]) (fun _ => inAutomatic_literal hc) rfl (ih _)
  | @value t out _ ih =>
    have hkept := without_kept (x := '$' :: valueName t) (fun _ => inAutomatic_value)
      (by rw [Text.size_cons, ← Nat.add_assoc]; rfl) (ih (pos + 1 + (valueName t).size))
    rwa [List.cons_append, valueName_append_drop] at hkept
  | @span t inner out p hp _ _ ihb ihr =>
    have hcloser : ']'.utf8Size = 1 := rfl
    have hopened := without_opened ']' (fun _ => inAutomatic_span hp)
      (fun i hi => by omega) (size_before_body rfl rfl pos p.head).symm (by omega)
      (without_color hp pos) (ihb _) (ihr _)
    simpa [bracketed_eq_ok hp] using hopened
  | @condition t inner out p hp _ _ ihb ihr =>
    have hcloser : '}'.utf8Size = 1 := rfl
    have hP (i : Nat) : InAutomatic pos ('?' :: t) i ↔ False ∨
        InAutomatic (pos + p.head.size + 2) p.body i ∨
          InAutomatic (pos + p.head.size + p.body.size + 3) p.rest i := by
      rw [false_or, inAutomatic_condition hp]
    have hsize := size_before_body (a := '?') (b := '{') rfl rfl pos p.head
    have hkey : Without (InAutomatic pos ('?' :: t)) pos ('?' :: p.head ++ ['{'])
        ('?' :: p.head ++ ['{']) := by
      apply without_self
      intro i _ hi h
      rcases (hP i).1 h with h | h | h
      · exact h
      · have hlt := h.lt
        omega
      · have hlt := h.lt
        omega
    have hopened := without_opened '}' hP (fun _ => False.elim) hsize.symm (by omega)
      hkey (ihb _) (ihr _)
    simpa [braced_eq_ok hp] using hopened
  | @call t out p hp _ ih =>
    have hsize := size_directive (a := '@') (b := '{') (c := '}') rfl rfl rfl pos p.head p.body
    have hkept := without_kept (fun _ => inAutomatic_call hp) hsize.symm (ih _)
    simpa [braced_eq_ok hp] using hkept

end Settles

/-- When no name is known, the output is the template without the colors of the automatic spans that
rendering comes to, and rendering the output changes nothing. -/
theorem render_of_unknowing (r : Resolver C)
    (hr : r = Resolver.unknowing ∨ r = Vocabulary.empty.resolver) (depth : Nat) (t out : Text)
    (scope : C) (h : r.render depth t scope = .ok out) :
    Without (InAutomatic 0 t) 0 t out ∧ ((∀ n p, ¬AutomaticAt 0 t n p) → out = t) ∧
      ∀ depth' scope', r.render (depth' + 1) out scope' = .ok out := by
  have hnone (render : Renderer C) (scope : C) : r.answers render scope = .none := by
    rcases hr with rfl | rfl
    · exact Resolver.answers_unknowing render scope
    · exact Vocabulary.answers_empty render scope
  cases depth with
  | zero => cases h
  | succ depth =>
    have hsettles : Settles t out := (render_eq_ok_iff_settles hnone).1 h
    refine ⟨hsettles.without 0, fun hauto => ?_, fun depth' scope' => ?_⟩
    · apply (hsettles.without 0).eq_self
      rintro i ⟨n, p, hat, -⟩
      exact hauto n p hat
    · exact (render_eq_ok_iff_settles hnone).2 hsettles.again

theorem render_of_unknowing_nested :
    Without (InAutomatic 0 "é[AUTO:$x [auto:y]]@f\x7b[auto:a]@$b\x7d$") 0
        "é[AUTO:$x [auto:y]]@f\x7b[auto:a]@$b\x7d$" "é[:$x [:y]]@f\x7b[auto:a]@$b\x7d$" ∧
      Resolver.unknowing.render 5 "é[:$x [:y]]@f\x7b[auto:a]@$b\x7d$" () =
        .ok "é[:$x [:y]]@f\x7b[auto:a]@$b\x7d$" ∧
      ∀ out, (Vocabulary.empty : Vocabulary Unit).resolver.render 4 "?[auto:k]\x7b[Red:ü]\x7d" () =
        .ok out → out = "?[auto:k]\x7b[Red:ü]\x7d" := by
  obtain ⟨hwithout, -, hagain⟩ := render_of_unknowing Resolver.unknowing (.inl rfl) 3
    "é[AUTO:$x [auto:y]]@f\x7b[auto:a]@$b\x7d$" "é[:$x [:y]]@f\x7b[auto:a]@$b\x7d$" () (by cbv)
  refine ⟨hwithout, hagain 4 (), fun out hout => ?_⟩
  apply (render_of_unknowing Vocabulary.empty.resolver (.inr rfl) 4 _ out () hout).2.1
  rintro n p ⟨r, hvisits, hp, hauto⟩
  have hcondition : braced "[auto:k]\x7b[Red:ü]\x7d" = .ok ⟨"[auto:k]", "[Red:ü]", []⟩ := by cbv
  have hspan : bracketed "Red:ü]" = .ok ⟨"Red", "ü", []⟩ := by cbv
  have hbody : ("[Red:ü]" : Text) = '[' :: "Red:ü]" := rfl
  have htext : ("?[auto:k]\x7b[Red:ü]\x7d" : Text) = '?' :: "[auto:k]\x7b[Red:ü]\x7d" := rfl
  rw [htext, visits_condition hcondition, hbody, visits_span hspan] at hvisits
  have hr : r = "Red:ü]" := by
    simp [visits_nil, visits_literal] at hvisits
    exact hvisits.2.2
  rw [hr, hspan] at hp
  cases hp
  cases hauto

end Listing
