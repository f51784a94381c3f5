import Listing.Proofs.Template.Nested

namespace Listing.Template

/-- The text closes all that it opens, and `depth` delimiters more. -/
def Level (opener closer : Char) (depth : Nat) (t : Text) : Prop :=
  t.count closer = t.count opener + depth

/-- No closer in the text closes the outermost of `depth + 1` delimiters that are open before it. -/
def Unclosed (opener closer : Char) (depth : Nat) (t : Text) : Prop :=
  ∀ s r, t = s ++ closer :: r → ¬Level opener closer depth s

/-- A closer behind the text closes the outermost of `depth + 1` open delimiters, and no closer in
the text does. -/
structure Closed (opener closer : Char) (depth : Nat) (t : Text) : Prop where
  level : Level opener closer depth t
  unclosed : Unclosed opener closer depth t

/-- What makes the directive malformed that a text starts with, when the text goes on to the end of
the body that the directive is in. -/
inductive Broken : Text → Fault → Prop
  | bracket {t : Text} : Unclosed '[' ']' 0 t → Broken ('[' :: t) (.unclosed '[' ']')
  | colon {inner rest : Text} : Closed '[' ']' 0 inner → ':' ∉ inner →
      Broken ('[' :: (inner ++ ']' :: rest)) .missingColon
  | noBrace {c : Char} {t : Text} : c ∈ ['?', '@'] → '{' ∉ t →
      Broken (c :: t) (.unclosed '{' '}')
  | brace {c : Char} {head t : Text} : c ∈ ['?', '@'] → '{' ∉ head → Unclosed '{' '}' 0 t →
      Broken (c :: (head ++ '{' :: t)) (.unclosed '{' '}')

section Closing

variable {opener closer c : Char} {depth : Nat} {s t : Text}

theorem level_nil : Level opener closer depth [] ↔ depth = 0 := by
  simp [Level, eq_comm]

theorem level_opener (hne : opener ≠ closer) :
    Level opener closer depth (opener :: t) ↔ Level opener closer (depth + 1) t := by
  rw [Level, Level, List.count_cons_of_ne hne, List.count_cons_self]
  omega

theorem level_closer (hne : opener ≠ closer) :
    Level opener closer (depth + 1) (closer :: t) ↔ Level opener closer depth t := by
  rw [Level, Level, List.count_cons_of_ne hne.symm, List.count_cons_self]
  omega

theorem level_other (ho : c ≠ opener) (hc : c ≠ closer) :
    Level opener closer depth (c :: t) ↔ Level opener closer depth t := by
  rw [Level, Level, List.count_cons_of_ne ho, List.count_cons_of_ne hc]

theorem unclosed_nil : Unclosed opener closer depth [] := by
  intro s r h
  simp at h

theorem unclosed_cons :
    Unclosed opener closer depth (c :: t) ↔ (c = closer → depth ≠ 0) ∧
      ∀ s r, t = s ++ closer :: r → ¬Level opener closer depth (c :: s) := by
  constructor
  · intro h
    refine ⟨fun hc => ?_, fun s r ht => h (c :: s) r (by rw [ht]; rfl)⟩
    exact mt level_nil.2 (h [] t (by rw [hc]; rfl))
  · rintro ⟨hnil, hcons⟩ s r h
    cases s with
    | nil => exact mt level_nil.1 (hnil (List.cons.inj h).1)
    | cons x s =>
      obtain ⟨rfl, ht⟩ := List.cons.inj h
      exact hcons s r ht

theorem unclosed_opener (hne : opener ≠ closer) :
    Unclosed opener closer depth (opener :: t) ↔ Unclosed opener closer (depth + 1) t := by
  rw [unclosed_cons]
  simp [Unclosed, level_opener hne, hne]

theorem unclosed_closer (hne : opener ≠ closer) :
    Unclosed opener closer (depth + 1) (closer :: t) ↔ Unclosed opener closer depth t := by
  rw [unclosed_cons]
  simp [Unclosed, level_closer hne]

theorem unclosed_other (ho : c ≠ opener) (hc : c ≠ closer) :
    Unclosed opener closer depth (c :: t) ↔ Unclosed opener closer depth t := by
  rw [unclosed_cons]
  simp [Unclosed, level_other ho hc, hc]

theorem closed_iff :
    Closed opener closer depth t ↔
      Level opener closer depth t ∧ Unclosed opener closer depth t :=
  ⟨fun h => ⟨h.level, h.unclosed⟩, fun h => ⟨h.1, h.2⟩⟩

theorem closed_opener (hne : opener ≠ closer) :
    Closed opener closer depth (opener :: t) ↔ Closed opener closer (depth + 1) t := by
  rw [closed_iff, closed_iff, level_opener hne, unclosed_opener hne]

theorem closed_closer (hne : opener ≠ closer) :
    Closed opener closer (depth + 1) (closer :: t) ↔ Closed opener closer depth t := by
  rw [closed_iff, closed_iff, level_closer hne, unclosed_closer hne]

theorem closed_other (ho : c ≠ opener) (hc : c ≠ closer) :
    Closed opener closer depth (c :: t) ↔ Closed opener closer depth t := by
  rw [closed_iff, closed_iff, level_other ho hc, unclosed_other ho hc]

theorem closing_eq_none_iff (hne : opener ≠ closer) :
    closing opener closer depth t = none ↔ Unclosed opener closer depth t := by
  fun_induction closing opener closer depth t with
  | case1 depth => simp [unclosed_nil]
  | case2 t => simp [unclosed_cons]
  | case3 t depth ih => rw [Option.map_eq_none_iff, ih, unclosed_closer hne]
  | case4 depth t _ ih => rw [Option.map_eq_none_iff, ih, unclosed_opener hne]
  | case5 depth c t hc ho ih => rw [Option.map_eq_none_iff, ih, unclosed_other ho hc]

theorem closing_append (hne : opener ≠ closer) (ht : Closed opener closer depth t) (rest : Text) :
    closing opener closer depth (t ++ closer :: rest) = some (t, rest) := by
  induction t generalizing depth with
  | nil => simp [closing, level_nil.1 ht.level]
  | cons c t ih =>
    by_cases hc : c = closer
    · subst hc
      obtain ⟨d, rfl⟩ := Nat.exists_eq_succ_of_ne_zero ((unclosed_cons.1 ht.unclosed).1 rfl)
      simp [closing, ih ((closed_closer hne).1 ht)]
    by_cases ho : c = opener
    · subst ho
      simp [closing, hc, ih ((closed_opener hne).1 ht)]
    · simp [closing, hc, ho, ih ((closed_other ho hc).1 ht)]

theorem closed_of_closing (hne : opener ≠ closer) {inner rest : Text}
    (h : closing opener closer depth t = some (inner, rest)) :
    Closed opener closer depth inner := by
  fun_induction closing opener closer depth t generalizing inner with
  | case1 depth => cases h
  | case2 t =>
    cases h
    exact ⟨level_nil.2 rfl, unclosed_nil⟩
  | case3 t depth ih =>
    obtain ⟨p, hp, hpair⟩ := Option.map_eq_some_iff.1 h
    cases hpair
    exact (closed_closer hne).2 (ih hp)
  | case4 depth t _ ih =>
    obtain ⟨p, hp, hpair⟩ := Option.map_eq_some_iff.1 h
    cases hpair
    exact (closed_opener hne).2 (ih hp)
  | case5 depth c t hc ho ih =>
    obtain ⟨p, hp, hpair⟩ := Option.map_eq_some_iff.1 h
    cases hpair
    exact (closed_other ho hc).2 (ih hp)

theorem Closed.of_filter (hs : Closed opener closer depth s)
    (h : t.filter (· ∈ [opener, closer]) = s.filter (· ∈ [opener, closer])) :
    Closed opener closer depth t := by
  have hlevel {u v : Text}
      (huv : u.filter (· ∈ [opener, closer]) = v.filter (· ∈ [opener, closer])) :
      Level opener closer depth u ↔ Level opener closer depth v := by
    have hcount (x : Char) (hx : x ∈ [opener, closer]) (w : Text) :
        (w.filter (· ∈ [opener, closer])).count x = w.count x :=
      List.count_filter (by simpa using hx)
    rw [Level, Level, ← hcount closer (by simp) u, ← hcount opener (by simp) u, huv,
      hcount closer (by simp), hcount opener (by simp)]
  refine ⟨(hlevel h).2 hs.level, fun a b hab => ?_⟩
  have hsplit : s.filter (· ∈ [opener, closer]) = a.filter (· ∈ [opener, closer]) ++
      closer :: b.filter (· ∈ [opener, closer]) := by
    rw [← h, hab, List.filter_append, List.filter_cons_of_pos (by simp)]
  obtain ⟨a', r, hs', ha', hr⟩ := List.filter_eq_append_iff.1 hsplit
  obtain ⟨m, b', hr', hm, -, -⟩ := List.filter_eq_cons_iff.1 hr
  have hsame : (a' ++ m).filter (· ∈ [opener, closer]) = a.filter (· ∈ [opener, closer]) := by
    have hnil : m.filter (· ∈ [opener, closer]) = [] := List.filter_eq_nil_iff.2 hm
    rw [List.filter_append, ha', hnil, List.append_nil]
  rw [← hlevel hsame]
  exact hs.unclosed (a' ++ m) b' (by rw [hs', hr', List.append_assoc])

end Closing

theorem cut_eq_none_iff {c : Char} {t : Text} : Text.cut c t = none ↔ c ∉ t := by
  induction t with
  | nil => simp [Text.cut]
  | cons x t ih =>
    rw [Text.cut]
    by_cases hx : x = c
    · simp [hx]
    · simp [hx, ih, Ne.symm hx]

theorem bracketed_eq_error_iff {t : Text} {fault : Fault} :
    bracketed t = .error fault ↔ Broken ('[' :: t) fault := by
  constructor
  · intro h
    rw [bracketed] at h
    split at h
    · next hclosing =>
      cases h
      exact .bracket ((closing_eq_none_iff (by decide)).1 hclosing)
    · next inner rest hclosing =>
      split at h
      · next hcut =>
        cases h
        rw [closing_eq_some hclosing]
        exact .colon (closed_of_closing (by decide) hclosing) (cut_eq_none_iff.1 hcut)
      · cases h
  · intro h
    cases h with
    | bracket hunclosed => simp [bracketed, (closing_eq_none_iff (by decide)).2 hunclosed]
    | colon hclosed hcolon =>
      simp [bracketed, closing_append (by decide) hclosed, cut_eq_none_iff.2 hcolon]
    | noBrace hc => simp at hc
    | brace hc => simp at hc

theorem braced_eq_error_iff {c : Char} (hc : c ∈ ['?', '@']) {t : Text} {fault : Fault} :
    braced t = .error fault ↔ Broken (c :: t) fault := by
  constructor
  · intro h
    rw [braced] at h
    split at h
    · next hcut =>
      cases h
      exact .noBrace hc (cut_eq_none_iff.1 hcut)
    · next head r hcut =>
      split at h
      · next hclosing =>
        cases h
        rw [Text.cut_eq_some hcut]
        exact .brace hc (Text.not_mem_of_cut hcut) ((closing_eq_none_iff (by decide)).1 hclosing)
      · cases h
  · intro h
    cases h with
    | bracket => simp at hc
    | colon => simp at hc
    | noBrace _ hbrace => simp [braced, cut_eq_none_iff.2 hbrace]
    | brace _ hhead hunclosed =>
      simp [braced, cut_append hhead, (closing_eq_none_iff (by decide)).2 hunclosed]

theorem Broken.mem {c : Char} {t : Text} {fault : Fault} (h : Broken (c :: t) fault) :
    c ∈ ['[', '?', '@'] := by
  cases h with
  | bracket | colon => simp
  | noBrace hc | brace hc => exact List.mem_cons_of_mem _ hc

theorem Broken.ne_nil {t : Text} {fault : Fault} (h : Broken t fault) : t ≠ [] := by
  cases h <;> exact List.cons_ne_nil _ _

theorem closed_of_bracketed {t : Text} {p : Part} (h : bracketed t = .ok p) :
    Closed '[' ']' 0 (p.head ++ ':' :: p.body) ∧ ':' ∉ p.head := by
  rw [bracketed] at h
  split at h
  · cases h
  · next inner rest hclosing =>
    split at h
    · cases h
    · next color body hcut =>
      cases h
      rw [← Text.cut_eq_some hcut]
      exact ⟨closed_of_closing (by decide) hclosing, Text.not_mem_of_cut hcut⟩

theorem closed_of_braced {t : Text} {p : Part} (h : braced t = .ok p) :
    Closed '{' '}' 0 p.body ∧ '{' ∉ p.head := by
  rw [braced] at h
  split at h
  · cases h
  · next head r hcut =>
    split at h
    · cases h
    · next body rest hclosing =>
      cases h
      exact ⟨closed_of_closing (by decide) hclosing, Text.not_mem_of_cut hcut⟩

/-- A color span stays delimited when its color and body are replaced by others with the same
brackets. -/
theorem bracketed_congr {t color body : Text} {p : Part} (h : bracketed t = .ok p)
    (hcolon : ':' ∉ color) (hcolor : color.filter (· ∈ ['[', ']']) = p.head.filter (· ∈ ['[', ']']))
    (hbody : body.filter (· ∈ ['[', ']']) = p.body.filter (· ∈ ['[', ']'])) (rest : Text) :
    bracketed (color ++ ':' :: body ++ ']' :: rest) = .ok ⟨color, body, rest⟩ := by
  have hclosed : Closed '[' ']' 0 (color ++ ':' :: body) := by
    apply (closed_of_bracketed h).1.of_filter
    rw [List.filter_append, List.filter_append, List.filter_cons, List.filter_cons, hcolor, hbody]
  rw [bracketed, closing_append (by decide) hclosed]
  simp [cut_append hcolon]

theorem braced_closed {head body : Text} (hhead : '{' ∉ head) (hbody : Closed '{' '}' 0 body)
    (rest : Text) : braced (head ++ '{' :: body ++ '}' :: rest) = .ok ⟨head, body, rest⟩ := by
  simp [braced, cut_append hhead, closing_append (by decide) hbody rest]

theorem braced_congr {t body : Text} {p : Part} (h : braced t = .ok p)
    (hbody : body.filter (· ∈ ['{', '}']) = p.body.filter (· ∈ ['{', '}'])) (rest : Text) :
    braced (p.head ++ '{' :: body ++ '}' :: rest) = .ok ⟨p.head, body, rest⟩ := by
  obtain ⟨hclosed, hhead⟩ := closed_of_braced h
  exact braced_closed hhead (hclosed.of_filter hbody) rest

end Listing.Template
