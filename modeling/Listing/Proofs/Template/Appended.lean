import Listing.Proofs.Template.Visited

namespace Listing.Template

/-- Text that does not go on with the name of a value that ends in front of it. -/
def EndsNames (u : Text) : Prop := ∀ c ∈ u.head?, Text.isBlank c = true

section Append

variable {t : Text} {p : Part}

theorem bracketed_append_right (h : bracketed t = .ok p) (u : Text) :
    bracketed (t ++ u) = .ok ⟨p.head, p.body, p.rest ++ u⟩ := by
  have hcolon : ':' ∉ p.head := (closed_of_bracketed h).2
  have ht : t ++ u = p.head ++ ':' :: p.body ++ ']' :: (p.rest ++ u) := by
    simp [bracketed_eq_ok h]
  rw [ht]
  exact bracketed_congr h hcolon rfl rfl (p.rest ++ u)

theorem braced_append_right (h : braced t = .ok p) (u : Text) :
    braced (t ++ u) = .ok ⟨p.head, p.body, p.rest ++ u⟩ := by
  have ht : t ++ u = p.head ++ '{' :: p.body ++ '}' :: (p.rest ++ u) := by
    simp [braced_eq_ok h]
  rw [ht]
  exact braced_congr h rfl (p.rest ++ u)

theorem valueName_append_right {u : Text} (hu : EndsNames u) (t : Text) :
    valueName (t ++ u) = valueName t := by
  have hstop : valueName u = [] := by
    cases u with
    | nil => rfl
    | cons c u => exact List.takeWhile_cons_of_neg (by simp [hu c rfl])
  induction t with
  | nil => exact hstop
  | cons c t ih =>
    by_cases hc : Text.isBlank c = true
    · simp [valueName, hc]
    · simpa [valueName, hc] using ih

theorem drop_valueName_append (t u : Text) :
    (t ++ u).drop (valueName t).length = t.drop (valueName t).length ++ u := by
  have ht : t ++ u = valueName t ++ (t.drop (valueName t).length ++ u) := by
    rw [← List.append_assoc, valueName_append_drop]
  rw [ht, List.drop_left]

end Append

/-- Puts a tree at the end of another one. Nothing comes behind a broken leaf. -/
def append : Template → Template → Template
  | done, u => u
  | broken d, _ => broken d
  | literal c rest, u => literal c (rest.append u)
  | value name rest, u => value name (rest.append u)
  | span color subject body rest, u => span color subject body (rest.append u)
  | condition key body rest, u => condition key body (rest.append u)
  | call name args flaw rest, u => call name args flaw (rest.append u)

instance : Append Template := ⟨append⟩

theorem defect?_append (s u : Template) : (s ++ u).defect? = s.defect?.or u.defect? := by
  induction s with
  | done | broken => rfl
  | literal _ _ ih | value _ _ ih => exact ih
  | span _ _ _ _ _ ih | condition _ _ _ _ ih | call _ _ _ _ ih =>
    rw [defect?, Option.or_assoc, ← ih]
    rfl

theorem append_assoc (s t u : Template) : s ++ t ++ u = s ++ (t ++ u) := by
  induction s with
  | done | broken => rfl
  | literal c _ ih => exact congrArg (literal c) ih
  | value name _ ih => exact congrArg (value name) ih
  | span color subject body _ _ ih => exact congrArg (span color subject body) ih
  | condition key body _ _ ih => exact congrArg (condition key body) ih
  | call name args flaw _ ih => exact congrArg (call name args flaw) ih

theorem endsNames_drop_valueName (t : Text) : EndsNames (t.drop (valueName t).length) := by
  intro c hc
  rw [valueName] at hc
  induction t with
  | nil => simp at hc
  | cons x t ih =>
    by_cases hx : Text.isBlank x = true
    · simp_all
    · simp_all

theorem valueName_valueName (t : Text) : valueName (valueName t) = valueName t := by
  have h := valueName_append_right (endsNames_drop_valueName t) (valueName t)
  rw [valueName_append_drop] at h
  exact h.symm

theorem Steps.append_right {t s u v : Text} (h : Steps t s u) (hv : EndsNames u → EndsNames v) :
    Steps (s ++ v) s v := by
  cases h with
  | literal hc => exact .literal hc
  | @value t =>
    have hname : valueName (valueName t ++ v) = valueName t := by
      rw [valueName_append_right (hv (endsNames_drop_valueName t)), valueName_valueName]
    have hdrop : (valueName t ++ v).drop (valueName t).length = v := List.drop_left
    have h := Steps.value (t := valueName t ++ v)
    rwa [hname, hdrop] at h
  | @span t p hp =>
    have h := Steps.span (bracketed_congr hp (closed_of_bracketed hp).2 rfl rfl v)
    simpa using h
  | @block c t p hc hp =>
    have h := Steps.block hc (braced_congr hp rfl v)
    simpa using h

/-- The tree of a template begins with the tree of the first step. -/
theorem Steps.read_eq {t s u : Text} (h : Steps t s u) (pos : Nat) :
    read pos t = read pos s ++ read (pos + s.size) u := by
  cases h with
  | @literal c _ hc =>
    rw [read_literal pos hc, read_literal pos hc, read_nil, Text.size_cons, Text.size_nil]
    rfl
  | @value t =>
    have hdollar : '$'.utf8Size = 1 := rfl
    by_cases hname : valueName t = []
    · rw [hname, read_dollar pos hname, read_dollar pos rfl, read_nil, Text.size_cons, hdollar]
      rfl
    · have halone : valueName (valueName t) ≠ [] := by rwa [valueName_valueName]
      rw [read_value pos hname, read_value pos halone, valueName_valueName, List.drop_length,
        read_nil, Text.size_cons, hdollar, Nat.add_assoc pos]
      rfl
  | @span t p hp =>
    have hread := read_span pos (bracketed_congr hp (closed_of_bracketed hp).2 rfl rfl [])
    rw [read_nil] at hread
    rw [read_span pos hp, size_directive rfl rfl rfl]
    exact congrArg (· ++ read (pos + p.head.size + p.body.size + 3) p.rest) hread.symm
  | @block c t p hc hp =>
    have halone := braced_congr hp rfl []
    simp only [List.mem_cons, List.not_mem_nil, or_false] at hc
    rcases hc with rfl | rfl
    · have hread := read_condition pos halone
      rw [read_nil] at hread
      rw [read_condition pos hp, size_directive rfl rfl rfl]
      exact congrArg (· ++ read (pos + p.head.size + p.body.size + 3) p.rest) hread.symm
    · have hread := read_call pos halone
      rw [read_nil] at hread
      rw [read_call pos hp, size_directive rfl rfl rfl]
      exact congrArg (· ++ read (pos + p.head.size + p.body.size + 3) p.rest) hread.symm

theorem Reaches.read_eq {t before rest : Text} (h : Reaches t before rest) (pos : Nat) :
    read pos t = read pos before ++ read (pos + before.size) rest := by
  induction h generalizing pos with
  | start =>
    rw [read_nil]
    rfl
  | @step t s u before rest hs hreaches ih =>
    have hnames : EndsNames u → EndsNames before := by
      intro hu
      rw [hreaches.eq_append] at hu
      cases before with
      | nil => nofun
      | cons c before => exact hu
    rw [hs.read_eq, ih, (hs.append_right hnames).read_eq, append_assoc, Text.size_append,
      Nat.add_assoc]

theorem Steps.reaches_append {t s u v : Text} (h : Steps t s u) (hv : Steps (t ++ v) s (u ++ v))
    (hrest : Reaches (u ++ v) u v) : Reaches (t ++ v) t v := by
  have hreaches := hrest.step hv
  rwa [← h.eq_append] at hreaches

/-- Reading comes to the text behind a well-formed template. -/
theorem reaches_append {t u : Text} (ht : fault? t = none) (hu : EndsNames u) :
    Reaches (t ++ u) t u := by
  induction t using readInduction with
  | nil => exact .start
  | spanBroken t fault h =>
    rw [fault?_span_broken h] at ht
    cases ht
  | span t p h _ ih =>
    rw [fault?_span h, Option.or_eq_none_iff] at ht
    exact (Steps.span h).reaches_append (.span (bracketed_append_right h u)) (ih ht.2)
  | conditionBroken t fault h =>
    rw [fault?_condition_broken h] at ht
    cases ht
  | condition t p h _ ih =>
    rw [fault?_condition h, Option.or_eq_none_iff] at ht
    have hc : '?' ∈ ['?', '@'] := by decide
    exact (Steps.block hc h).reaches_append (.block hc (braced_append_right h u)) (ih ht.2)
  | callBroken t fault h =>
    rw [fault?_call_broken h] at ht
    cases ht
  | call t p h _ ih =>
    rw [fault?_call h, Option.or_eq_none_iff] at ht
    have hc : '@' ∈ ['?', '@'] := by decide
    exact (Steps.block hc h).reaches_append (.block hc (braced_append_right h u)) (ih ht.2)
  | value t h ih =>
    rw [fault?_value h] at ht
    have hstep := Steps.value (t := t ++ u)
    rw [valueName_append_right hu, drop_valueName_append] at hstep
    exact Steps.value.reaches_append hstep (ih ht)
  | dollar t h ih =>
    rw [fault?_dollar h] at ht
    have hstep := Steps.value (t := t)
    have hstep' := Steps.value (t := t ++ u)
    rw [h, List.length_nil, List.drop_zero] at hstep
    rw [valueName_append_right hu, h, List.length_nil, List.drop_zero] at hstep'
    exact hstep.reaches_append hstep' (ih ht)
  | literal c t hc ih =>
    rw [fault?_literal hc] at ht
    exact (Steps.literal hc).reaches_append (.literal hc) (ih ht)

theorem read_append {t u : Text} (ht : fault? t = none) (hu : EndsNames u) (pos : Nat) :
    read pos (t ++ u) = read pos t ++ read (pos + t.size) u :=
  (reaches_append ht hu).read_eq pos

end Listing.Template
