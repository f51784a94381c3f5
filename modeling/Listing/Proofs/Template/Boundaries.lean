import Mathlib
import Listing.Proofs.Template.Separated

namespace Listing.Template

/-- Arguments and what comes behind them: the last of them goes on with the first that follow. -/
def splice : List Text → List Text → List Text
  | [], bs => bs
  | [a], bs => extend a bs
  | a :: b :: as, bs => a :: splice (b :: as) bs

theorem splice_concat (as : List Text) (a : Text) (bs : List Text) :
    splice (as ++ [a]) bs = as ++ extend a bs := by
  induction as with
  | nil => rfl
  | cons x as ih =>
    obtain ⟨y, ys, hy⟩ := List.exists_cons_of_ne_nil (List.concat_ne_nil a as)
    rw [List.cons_append, hy, splice, ← hy, ih, List.cons_append]

theorem splice_extend (s : Text) {as : List Text} (hne : as ≠ []) (bs : List Text) :
    splice (extend s as) bs = extend s (splice as bs) := by
  match as with
  | [a] => rw [extend, splice, splice, extend_extend]
  | a :: b :: as => rfl

theorem splice_cons (a : Text) {as : List Text} (hne : as ≠ []) (bs : List Text) :
    splice (a :: as) bs = a :: splice as bs := by
  match as with
  | b :: as => rfl

theorem splice_nil_cons {as : List Text} (hne : as ≠ []) (bs : List Text) :
    splice as ([] :: bs) = as ++ bs := by
  obtain ⟨as, a, rfl⟩ := List.eq_nil_or_concat as |>.resolve_left hne
  rw [List.concat_eq_append, splice_concat, extend, List.append_nil, List.append_assoc]
  rfl

theorem splice_extend_ne {as : List Text} (hne : as ≠ []) {s : Text} (hs : s ≠ [])
    (bs cs : List Text) : splice as (extend s bs) ≠ as ++ cs := by
  obtain ⟨as, a, rfl⟩ := List.eq_nil_or_concat as |>.resolve_left hne
  rw [List.concat_eq_append, splice_concat, extend_extend, List.append_assoc]
  intro h
  have htail := List.append_cancel_left h
  cases bs with
  | nil =>
    have ha : a ++ s = a := (List.cons.inj htail).1
    exact hs (by simpa using ha)
  | cons b bs =>
    have ha : a ++ (s ++ b) = a := by
      rw [← List.append_assoc]
      exact (List.cons.inj htail).1
    exact hs (List.append_eq_nil_iff.1 (by simpa using ha)).1

theorem Unclosed.of_append {opener closer : Char} {depth : Nat} {s t : Text}
    (h : Unclosed opener closer depth (s ++ t)) : Unclosed opener closer depth s :=
  fun a r hs => h a (r ++ t) (by simp [hs])

theorem openAfter_of_unclosed {depth brackets : Nat} {t : Text} (h : Unclosed '{' '}' depth t) :
    (openAfter (depth + 1) brackets t).1 ≠ 0 := by
  induction t generalizing depth brackets with
  | nil =>
    rw [openAfter]
    exact Nat.succ_ne_zero depth
  | cons c t ih =>
    rw [openAfter, if_neg (by simp)]
    by_cases hc : c = '}'
    · subst hc
      obtain ⟨d, rfl⟩ := Nat.exists_eq_succ_of_ne_zero ((unclosed_cons.1 h).1 rfl)
      exact ih ((unclosed_closer (by decide)).1 h)
    by_cases ho : c = '{'
    · subst ho
      exact ih ((unclosed_opener (by decide)).1 h)
    · simpa [nest, hc, ho] using ih ((unclosed_other ho hc).1 h)

theorem openAfter_name {name : Text} (hname : ∀ c ∈ name, InCallName c) (brackets : Nat)
    (t : Text) : ∃ brackets', openAfter 0 brackets (name ++ t) = openAfter 0 brackets' t := by
  induction name generalizing brackets with
  | nil => exact ⟨brackets, rfl⟩
  | cons c name ih =>
    obtain ⟨-, hat, hbrace⟩ := hname c List.mem_cons_self
    obtain ⟨brackets', h⟩ :=
      ih (fun x hx => hname x (List.mem_cons_of_mem _ hx)) (nest '[' ']' c brackets)
    refine ⟨brackets', ?_⟩
    rw [List.cons_append, openAfter, if_neg (fun hc => hat hc.1)]
    have hnest : nest '{' '}' c 0 = 0 := by simp [nest, hbrace]
    rw [hnest, h]

theorem openAfter_ne_of_call {name body t u : Text} (hname : ∀ c ∈ name, InCallName c)
    (hbody : Closed '{' '}' 0 body) (h : name ++ '{' :: body ++ ['}'] = t ++ '@' :: u) :
    openAfter 0 0 t ≠ (0, 0) := by
  rw [List.append_assoc, List.cons_append] at h
  obtain ⟨m, ht, hm⟩ | ⟨m, hn, hm⟩ := List.append_eq_append_iff.1 h
  · cases m with
    | nil => simp at hm
    | cons c m =>
      obtain ⟨rfl, hsplit⟩ := List.cons.inj hm
      obtain ⟨v, rfl⟩ : ∃ v, body = m ++ v := by
        obtain ⟨k, -, hk⟩ | ⟨k, hk, -⟩ := List.append_eq_append_iff.1 hsplit
        · cases k <;> simp at hk
        · exact ⟨k, hk⟩
      obtain ⟨brackets, hopen⟩ := openAfter_name hname 0 ('{' :: m)
      rw [ht, hopen, openAfter, if_neg (by simp)]
      exact fun hzero => openAfter_of_unclosed hbody.unclosed.of_append (congrArg Prod.fst hzero)
  · cases m with
    | nil => simp at hm
    | cons c m =>
      obtain ⟨rfl, -⟩ := List.cons.inj hm
      exact absurd rfl (hname '@' (by simp [hn])).2.1

/-- A call that is not complete before a separator leaves the scan inside of its braces. -/
theorem innerCall_append_separator {t : Text} (hcall : innerCall t = none)
    (hopen : openAfter 0 0 t = (0, 0)) (rest : Text) : innerCall (t ++ '@' :: rest) = none := by
  cases h : innerCall (t ++ '@' :: rest) with
  | none => rfl
  | some p =>
    obtain ⟨call, u⟩ := p
    have hnot (v : Text) : t ≠ call ++ v := by
      rintro rfl
      rw [innerCall_congr h v] at hcall
      cases hcall
    obtain ⟨name, body, -, hname, hbody, rfl, heq⟩ := innerCall_eq_some_iff.1 h
    obtain ⟨m, hm, hm'⟩ | ⟨m, hm, -⟩ := List.append_eq_append_iff.1 heq
    · cases m with
      | nil => exact absurd (by simpa using hm.symm) (hnot [])
      | cons c m =>
        obtain ⟨rfl, -⟩ := List.cons.inj hm'
        exact absurd hopen (openAfter_ne_of_call hname hbody hm)
    · exact absurd hm (hnot m)

/-- The arguments of a text with an `@` behind it that the scan comes to. -/
theorem argumentsFrom_append_at {braces brackets : Nat} {s : Text}
    (hopen : openAfter braces brackets s = (0, 0)) (rest : Text) :
    argumentsFrom braces brackets (s ++ '@' :: rest) =
      splice (argumentsFrom braces brackets s) (argumentsFrom 0 0 ('@' :: rest)) := by
  fun_induction openAfter braces brackets s with
  | case1 braces brackets =>
    cases hopen
    rw [argumentsFrom, splice, extend_nil (argumentsFrom_ne_nil 0 0 _)]
    rfl
  | case2 braces brackets c t hc call u hcall ih =>
    obtain ⟨rfl, rfl, rfl⟩ := hc
    have hrest : innerCall (t ++ '@' :: rest) = some (call, u ++ '@' :: rest) := by
      rw [innerCall_eq_some hcall, List.append_assoc]
      exact innerCall_congr hcall _
    rw [List.cons_append, argumentsFrom_call hrest, argumentsFrom_call hcall, ih hopen,
      splice_extend _ (argumentsFrom_ne_nil 0 0 u)]
  | case3 braces brackets c t hc hcall ih =>
    obtain ⟨rfl, rfl, rfl⟩ := hc
    rw [List.cons_append, argumentsFrom_separator (innerCall_append_separator hcall hopen rest),
      argumentsFrom_separator hcall, ih hopen, splice_cons _ (argumentsFrom_ne_nil 0 0 t)]
  | case4 braces brackets c t hc ih =>
    rw [List.cons_append, argumentsFrom_inside _ _ hc, argumentsFrom_inside _ _ hc, ih hopen,
      splice_extend _ (argumentsFrom_ne_nil _ _ t)]

section Separators

variable {before rest : Text}

theorem arguments_separator (hopen : openAfter 0 0 before = (0, 0))
    (hcall : innerCall rest = none) :
    arguments (before ++ '@' :: rest) = arguments before ++ arguments rest := by
  rw [arguments, argumentsFrom_append_at hopen, argumentsFrom_separator hcall,
    splice_nil_cons (argumentsFrom_ne_nil 0 0 before)]
  rfl

theorem arguments_call (hopen : openAfter 0 0 before = (0, 0)) {call after : Text}
    (hcall : innerCall rest = some (call, after)) :
    arguments (before ++ '@' :: rest) =
      splice (arguments before) (extend ('@' :: call) (arguments after)) := by
  rw [arguments, argumentsFrom_append_at hopen, argumentsFrom_call hcall]
  rfl

theorem arguments_separator_iff (hopen : openAfter 0 0 before = (0, 0)) :
    arguments (before ++ '@' :: rest) = arguments before ++ arguments rest ↔
      innerCall rest = none := by
  constructor
  · intro h
    cases hcall : innerCall rest with
    | none => rfl
    | some p =>
      rw [arguments_call hopen hcall] at h
      exact absurd h (splice_extend_ne (argumentsFrom_ne_nil 0 0 before) (List.cons_ne_nil _ _) _ _)
  · exact arguments_separator hopen

theorem argumentsBefore_eq {as : List Text} (hne : as ≠ []) :
    argumentsBefore as = ['@'].intercalate as ++ ['@'] := by
  induction as with
  | nil => exact absurd rfl hne
  | cons a as ih =>
    cases as with
    | nil => simp [argumentsBefore]
    | cons b bs =>
      rw [argumentsBefore, ih (List.cons_ne_nil b bs), List.intercalate_cons_cons]
      simp

theorem located_separator_iff :
    located 0 (arguments (before ++ '@' :: rest)) =
        located 0 (arguments before) ++ located (before.size + 1) (arguments rest) ↔
      arguments (before ++ '@' :: rest) = arguments before ++ arguments rest := by
  have hat : '@'.utf8Size = 1 := rfl
  constructor
  · intro h
    have hsnd := congrArg (List.map Prod.snd) h
    rwa [List.map_append, map_snd_located, map_snd_located, map_snd_located] at hsnd
  · intro h
    have hne : arguments before ≠ [] := argumentsFrom_ne_nil 0 0 before
    rw [h, located_append, argumentsBefore_eq hne, intercalate_arguments, Text.size_append,
      Text.size_cons, Text.size_nil, hat, Nat.zero_add]

end Separators

/-- What follows an `@` reads as a call: a name, and behind it a body in braces. -/
def ReadsAsCall (t : Text) : Prop :=
  ∃ name body after, name ≠ [] ∧ (∀ c ∈ name, InCallName c) ∧ Closed '{' '}' 0 body ∧
    t = name ++ '{' :: body ++ '}' :: after

theorem isSome_innerCall_iff {t : Text} : (innerCall t).isSome ↔ ReadsAsCall t := by
  rw [Option.isSome_iff_exists]
  constructor
  · rintro ⟨p, hp⟩
    obtain ⟨name, body, hne, hname, hbody, hcall, ht⟩ := innerCall_eq_some_iff.1 hp
    exact ⟨name, body, p.2, hne, hname, hbody, by rw [ht, hcall]; simp⟩
  · rintro ⟨name, body, after, hne, hname, hbody, rfl⟩
    exact ⟨(name ++ '{' :: body ++ ['}'], after),
      innerCall_eq_some_iff.2 ⟨name, body, hne, hname, hbody, rfl, by simp⟩⟩

instance (t : Text) : Decidable (ReadsAsCall t) := decidable_of_iff _ isSome_innerCall_iff

/-- In front of a condition or a color span an `@` is a separator, behind which the next argument
starts, unless the directive reads as a call. Then it is part of the argument in front of it. -/
theorem separates_before_directives {before : Text} (hopen : openAfter 0 0 before = (0, 0))
    {c : Char} (hc : c ∈ ['?', '[']) (rest : Text) :
    (located 0 (arguments (before ++ '@' :: c :: rest)) =
        located 0 (arguments before) ++ located (before.size + 1) (arguments (c :: rest)) ↔
      ¬ReadsAsCall (c :: rest)) ∧
    ∀ name body after, (∀ x ∈ name, InCallName x) → Closed '{' '}' 0 body →
      rest = name ++ '{' :: body ++ '}' :: after →
      arguments (before ++ '@' :: c :: rest) =
        splice (arguments before)
          (extend ('@' :: c :: name ++ '{' :: body ++ ['}']) (arguments after)) := by
  constructor
  · rw [located_separator_iff, arguments_separator_iff hopen, ← isSome_innerCall_iff]
    simp
  · rintro name body after hname hbody rfl
    have hhead : ∀ x ∈ c :: name, InCallName x := by
      refine List.forall_mem_cons.2 ⟨?_, hname⟩
      simp only [List.mem_cons, List.not_mem_nil, or_false] at hc
      rcases hc with rfl | rfl <;> exact ⟨by decide, by decide, by decide⟩
    have hcall : innerCall (c :: (name ++ '{' :: body ++ '}' :: after)) =
        some (c :: name ++ '{' :: body ++ ['}'], after) :=
      innerCall_eq_some_iff.2 ⟨c :: name, body, List.cons_ne_nil _ _, hhead, hbody, rfl, by simp⟩
    exact arguments_call hopen hcall

theorem separates_before_blank_in_key : openAfter 0 0 "@f\x7b@\x7d[@]a" = (0, 0) ∧
    ¬ReadsAsCall "?is open\x7b@\x7d@b" ∧ ReadsAsCall "?open\x7b@\x7d@b" ∧
    located 0 (arguments "@f\x7b@\x7d[@]a@?is open\x7b@\x7d@b") =
      ([(0, "@f\x7b@\x7d[@]a"), (10, "?is open\x7b@\x7d"), (22, "b")] : List (Nat × Text)) ∧
    arguments "@f\x7b@\x7d[@]a@?open\x7b@\x7d@b" =
      (["@f\x7b@\x7d[@]a@?open\x7b@\x7d", "b"] : List Text) := by
  have hopen : openAfter 0 0 "@f\x7b@\x7d[@]a" = (0, 0) := by cbv
  have hblank : ¬ReadsAsCall "?is open\x7b@\x7d@b" := by decide +kernel
  have hcall : ReadsAsCall "?open\x7b@\x7d@b" := by decide +kernel
  have hall : (("open" : Text).all fun c => !endsCallName c) = true := by decide
  have hname : ∀ c ∈ ("open" : Text), InCallName c := fun c hc =>
    not_endsCallName.1 (List.all_eq_true.1 hall c hc)
  have hbody : Closed '{' '}' 0 ['@'] :=
    (closed_other (by decide) (by decide)).2 ⟨level_nil.2 rfl, unclosed_nil⟩
  have hseparates := separates_before_directives hopen (c := '?') (by decide) "is open\x7b@\x7d@b"
  have hjoins := separates_before_directives hopen (c := '?') (by decide) "open\x7b@\x7d@b"
  exact ⟨hopen, hblank, hcall, (hseparates.1.2 hblank).trans (by cbv),
    (hjoins.2 "open" "@" "@b" hname hbody rfl).trans (by cbv)⟩

/-- An argument that is a condition or a color span can be lost in the one in front of it. -/
theorem directives_behind_separator_lost : openAfter 0 0 "a" = (0, 0) ∧
    arguments "a@?open\x7bx\x7d" = (["a@?open\x7bx\x7d"] : List Text) ∧
    arguments "a@[Red:?open\x7bx\x7d]" = (["a@[Red:?open\x7bx\x7d]"] : List Text) := by
  refine ⟨?_, ?_, ?_⟩ <;> cbv

end Listing.Template
