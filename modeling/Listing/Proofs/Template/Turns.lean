import Listing.Proofs.Template.Visited

namespace Listing.Template

theorem Steps.lt {t s u : Text} (h : Steps t s u) : 0 < s.size := by
  cases h with
  | literal | value | span | block =>
    exact Nat.lt_of_lt_of_le (Char.utf8Size_pos _) (Nat.le_add_right _ _)

theorem Opens.lt {route : Route} {t x u y : Text} (h : Opens route t x u y) : 0 < x.size := by
  cases h with
  | span | condition | argument =>
    exact Nat.lt_of_lt_of_le (Char.utf8Size_pos _) (Nat.le_add_right _ _)

theorem Opens.size_lt {route : Route} {body before t x u y : Text}
    (hreaches : Reaches body before t) (h : Opens route t x u y) : u.size < body.size := by
  have hx := h.lt
  rw [hreaches.eq_append, h.eq_append]
  simp only [Text.size_append]
  omega

/-- Reads the first character or directive of a text, and leaves all texts behind it and in it to
`next`. -/
def turn (next : Nat → Text → Template) (pos : Nat) : Text → Template
  | [] => done
  | c :: t =>
    if c = '[' then
      match bracketed t with
      | .error fault => broken ⟨fault, pos⟩
      | .ok p =>
        span p.head (subject? p.body) (next (pos + p.head.size + 2) p.body)
          (next (pos + p.head.size + p.body.size + 3) p.rest)
    else if c = '?' then
      match braced t with
      | .error fault => broken ⟨fault, pos⟩
      | .ok p =>
        condition p.head (next (pos + p.head.size + 2) p.body)
          (next (pos + p.head.size + p.body.size + 3) p.rest)
    else if c = '@' then
      match braced t with
      | .error fault => broken ⟨fault, pos⟩
      | .ok p =>
        call p.head (arguments p.body)
          ((located (pos + p.head.size + 2) (arguments p.body)).findSome? fun a =>
            (next a.1 a.2).defect?)
          (next (pos + p.head.size + p.body.size + 3) p.rest)
    else if c = '$' ∧ valueName t ≠ [] then
      value (valueName t)
        (next (pos + 1 + (valueName t).size) (t.drop (valueName t).length))
    else literal c (next (pos + c.utf8Size) t)

section Congr

variable {next : Nat → Text → Template} {t : Text}

/-- A turn reads a text when the turns to which it leaves shorter texts read these. -/
theorem turn_eq_read (hnext : ∀ pos u, u.length < t.length → next pos u = read pos u) (pos : Nat) :
    turn next pos t = read pos t := by
  induction t using readInduction with
  | nil => rw [turn, read_nil]
  | spanBroken t fault h => simp only [turn, h, read_span_broken pos h, ↓reduceIte]
  | span t p h _ _ =>
    have hb := length_body_bracketed h
    have hr := length_rest_bracketed h
    rw [List.length_cons] at hnext
    simp only [turn, h, read_span pos h, ↓reduceIte]
    rw [hnext _ p.body (by omega), hnext _ p.rest (by omega)]
  | conditionBroken t fault h =>
    simp only [turn, h, read_condition_broken pos h, Char.reduceEq, ↓reduceIte]
  | condition t p h _ _ =>
    have hb := length_body_braced h
    have hr := length_rest_braced h
    rw [List.length_cons] at hnext
    simp only [turn, h, read_condition pos h, Char.reduceEq, ↓reduceIte]
    rw [hnext _ p.body (by omega), hnext _ p.rest (by omega)]
  | callBroken t fault h =>
    simp only [turn, h, read_call_broken pos h, Char.reduceEq, ↓reduceIte]
  | call t p h _ _ =>
    have hb := length_body_braced h
    have hr := length_rest_braced h
    rw [List.length_cons] at hnext
    have hargs : ∀ a ∈ located (pos + p.head.size + 2) (arguments p.body),
        (next a.1 a.2).defect? = (read a.1 a.2).defect? := by
      intro a ha
      have hlen := length_le_of_mem_arguments (mem_of_mem_located ha)
      rw [hnext a.1 a.2 (by omega)]
    simp only [turn, h, read_call pos h, Char.reduceEq, ↓reduceIte]
    rw [findSome?_congr hargs, hnext _ p.rest (by omega)]
  | value t h _ =>
    rw [List.length_cons] at hnext
    simp only [turn, read_value pos h, h, Char.reduceEq, ↓reduceIte, ne_eq, not_false_eq_true,
      and_self]
    rw [hnext _ _ (by simp only [List.length_drop]; omega)]
  | dollar t h _ =>
    have hdollar : '$'.utf8Size = 1 := rfl
    rw [List.length_cons] at hnext
    simp only [turn, read_dollar pos h, h, Char.reduceEq, ↓reduceIte, ne_eq, not_true_eq_false,
      and_false, hdollar]
    rw [hnext _ t (by omega)]
  | literal c t hc _ =>
    rw [List.length_cons] at hnext
    rw [read_literal pos hc]
    simp only [List.mem_cons, List.not_mem_nil, or_false, not_or] at hc
    simp only [turn, hc, ↓reduceIte, false_and]
    rw [hnext _ t (by omega)]

end Congr

/-- Reads in turns, of which at most `turns` follow one another. What is left then is read by
`bottom`. -/
def readOver (bottom : Nat → Text → Template) : Nat → Nat → Text → Template
  | 0 => bottom
  | turns + 1 => turn (readOver bottom turns)

theorem readOver_eq (bottom : Nat → Text → Template) {t : Text} {turns : Nat}
    (h : t.length < turns) (pos : Nat) : readOver bottom turns pos t = read pos t := by
  induction turns generalizing t pos with
  | zero => exact absurd h (Nat.not_lt_zero _)
  | succ turns ih =>
    rw [readOver]
    apply turn_eq_read
    intro pos' u hu
    exact ih (by omega) pos'

def validateOver (bottom : Nat → Text → Template) (turns : Nat) (t : Text) :
    Except Malformed Unit :=
  match (readOver bottom turns 0 t).defect? with
  | none => .ok ()
  | some d => .error (d.within t)

theorem validateOver_eq (bottom : Nat → Text → Template) {t : Text} {turns : Nat}
    (h : t.length < turns) : validateOver bottom turns t = validate t := by
  rw [validateOver, readOver_eq bottom h]
  rfl

end Listing.Template
