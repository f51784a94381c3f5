import Listing.Proofs.Template.Nested

namespace Listing.Template

theorem extend_nil {as : List Text} (h : as ≠ []) : extend [] as = as := by
  cases as with
  | nil => exact absurd rfl h
  | cons a as => rfl

theorem extend_extend (s t : Text) (as : List Text) :
    extend s (extend t as) = extend (s ++ t) as := by
  cases as <;> simp [extend]

section Equations

variable (braces brackets : Nat) {c : Char} {t : Text}

theorem argumentsFrom_inside (h : ¬(c = '@' ∧ braces = 0 ∧ brackets = 0)) :
    argumentsFrom braces brackets (c :: t) =
      extend [c] (argumentsFrom (nest '{' '}' c braces) (nest '[' ']' c brackets) t) := by
  rw [argumentsFrom, if_neg h]

theorem argumentsFrom_plain (h : ¬(c = '@' ∧ braces = 0 ∧ brackets = 0)) (hc : c ∉ delimiters) :
    argumentsFrom braces brackets (c :: t) = extend [c] (argumentsFrom braces brackets t) := by
  simp only [delimiters, List.mem_cons, not_or] at hc
  rw [argumentsFrom_inside braces brackets h]
  simp [nest, hc]

theorem argumentsFrom_call {call rest : Text} (h : innerCall t = some (call, rest)) :
    argumentsFrom 0 0 ('@' :: t) = extend ('@' :: call) (argumentsFrom 0 0 rest) := by
  rw [argumentsFrom]
  simp only [and_self, ↓reduceIte]
  split <;> simp_all

theorem argumentsFrom_separator (h : innerCall t = none) :
    argumentsFrom 0 0 ('@' :: t) = [] :: argumentsFrom 0 0 t := by
  rw [argumentsFrom]
  simp only [and_self, ↓reduceIte]
  split <;> simp_all

end Equations

/-- Inside braces or brackets nothing separates, and nested text leads back to where it started. -/
theorem Nested.argumentsFrom_append {t : Text} (ht : Nested t) {braces brackets : Nat}
    (h : braces ≠ 0 ∨ brackets ≠ 0) (rest : Text) :
    argumentsFrom braces brackets (t ++ rest) =
      extend t (argumentsFrom braces brackets rest) := by
  have hin (c : Char) {m n : Nat} (hmn : m ≠ 0 ∨ n ≠ 0) : ¬(c = '@' ∧ m = 0 ∧ n = 0) :=
    fun hc => hmn.elim (· hc.2.1) (· hc.2.2)
  induction ht generalizing braces brackets rest with
  | nil => exact (extend_nil (argumentsFrom_ne_nil _ _ rest)).symm
  | plain hc _ ih =>
    rw [List.cons_append, argumentsFrom_plain _ _ (hin _ h) hc, ih h, extend_extend]
    rfl
  | @brackets s t _ _ ihs iht =>
    have hl : '[' :: s ++ ']' :: t ++ rest = '[' :: (s ++ ']' :: (t ++ rest)) := by simp
    rw [hl, argumentsFrom_inside _ _ (hin _ h), ihs (.inr (by simp [nest])),
      argumentsFrom_inside _ _ (hin _ (.inr (by simp [nest])))]
    simp only [nest, Char.reduceEq, ↓reduceIte, Nat.add_sub_cancel]
    rw [iht h]
    simp [extend_extend]
  | @braces s t _ _ ihs iht =>
    have hl : '{' :: s ++ '}' :: t ++ rest = '{' :: (s ++ '}' :: (t ++ rest)) := by simp
    rw [hl, argumentsFrom_inside _ _ (hin _ h), ihs (.inl (by simp [nest])),
      argumentsFrom_inside _ _ (hin _ (.inl (by simp [nest])))]
    simp only [nest, Char.reduceEq, ↓reduceIte, Nat.add_sub_cancel]
    rw [iht h]
    simp [extend_extend]

/-- Text that stays in one argument, whatever comes after it. -/
def Whole (t : Text) : Prop :=
  ∀ rest, argumentsFrom 0 0 (t ++ rest) = extend t (argumentsFrom 0 0 rest)

theorem whole_nil : Whole [] :=
  fun rest => (extend_nil (argumentsFrom_ne_nil 0 0 rest)).symm

theorem Whole.append {s t : Text} (hs : Whole s) (ht : Whole t) : Whole (s ++ t) := by
  intro rest
  rw [List.append_assoc, hs, ht, extend_extend]

theorem Whole.cons {c : Char} {t : Text} (hc : c ∉ '@' :: delimiters) (ht : Whole t) :
    Whole (c :: t) := by
  obtain ⟨hat, hc⟩ := not_or.1 (fun h => hc (List.mem_cons.2 h))
  intro rest
  rw [List.cons_append, argumentsFrom_plain 0 0 (fun h => hat h.1) hc, ht, extend_extend]
  rfl

theorem whole_of_not_mem {s : Text} (h : ∀ c ∈ s, c ∉ '@' :: delimiters) : Whole s := by
  induction s with
  | nil => exact whole_nil
  | cons c s ih => exact .cons (h c (by simp)) (ih fun x hx => h x (by simp [hx]))

theorem whole_brackets {s : Text} (hs : Nested s) : Whole ('[' :: s ++ [']']) := by
  intro rest
  have hl : '[' :: s ++ [']'] ++ rest = '[' :: (s ++ ']' :: rest) := by simp
  rw [hl, argumentsFrom_inside _ _ (by simp), hs.argumentsFrom_append (.inr (by simp [nest])),
    argumentsFrom_inside _ _ (by simp)]
  simp [nest, extend_extend]

theorem whole_braces {s : Text} (hs : Nested s) : Whole ('{' :: s ++ ['}']) := by
  intro rest
  have hl : '{' :: s ++ ['}'] ++ rest = '{' :: (s ++ '}' :: rest) := by simp
  rw [hl, argumentsFrom_inside _ _ (by simp), hs.argumentsFrom_append (.inl (by simp [nest])),
    argumentsFrom_inside _ _ (by simp)]
  simp [nest, extend_extend]

def InCallName (c : Char) : Prop := Text.isBlank c = false ∧ c ≠ '@' ∧ c ≠ '{'

theorem not_endsCallName {c : Char} : (!endsCallName c) = true ↔ InCallName c := by
  simp [endsCallName, InCallName, and_assoc]

theorem innerCall_append {name body : Text} (hne : name ≠ []) (hname : ∀ c ∈ name, InCallName c)
    (hbody : Nested body) (rest : Text) :
    innerCall (name ++ '{' :: body ++ '}' :: rest) = some (name ++ '{' :: body ++ ['}'], rest) := by
  have hall : ∀ c ∈ name, (!endsCallName c) = true := fun c hc => not_endsCallName.2 (hname c hc)
  have hstop : (!endsCallName '{') = false := by decide
  have hl : name ++ '{' :: body ++ '}' :: rest = name ++ '{' :: (body ++ '}' :: rest) := by simp
  rw [hl, innerCall, List.takeWhile_append_of_pos hall, List.dropWhile_append_of_pos hall]
  simp [hstop, hne, hbody.passes_braces.closing_eq]

theorem whole_call {name body : Text} (hne : name ≠ []) (hname : ∀ c ∈ name, InCallName c)
    (hbody : Nested body) :
    Whole ('@' :: name ++ '{' :: body ++ ['}']) := by
  intro rest
  have hcall := innerCall_append hne hname hbody rest
  have hl : '@' :: name ++ '{' :: body ++ ['}'] ++ rest =
      '@' :: (name ++ '{' :: body ++ '}' :: rest) := by simp
  rw [hl, argumentsFrom_call hcall]
  simp

/-- Text at whose start an `@` in front of it would see the name and the brace of a call. -/
def LooksLikeCall (t : Text) : Prop :=
  ∃ name rest, name ≠ [] ∧ (∀ c ∈ name, InCallName c) ∧ t = name ++ '{' :: rest

theorem looksLikeCall_of_dropWhile {t r : Text} (hne : t.takeWhile (fun c => !endsCallName c) ≠ [])
    (hr : (t.dropWhile fun c => !endsCallName c) = '{' :: r) : LooksLikeCall t := by
  refine ⟨_, r, hne, fun c hc => ?_, ?_⟩
  · exact not_endsCallName.1 (List.all_eq_true.1 List.all_takeWhile c hc)
  · rw [← hr, List.takeWhile_append_dropWhile]

theorem looksLikeCall_of_innerCall {t : Text} {p : Text × Text} (h : innerCall t = some p) :
    LooksLikeCall t := by
  rw [innerCall] at h
  split at h
  · cases h
  · next hne =>
    split at h
    · next r hr => exact looksLikeCall_of_dropWhile hne hr
    · cases h

instance (t : Text) : Decidable (LooksLikeCall t) :=
  decidable_of_iff
    (t.takeWhile (fun c => !endsCallName c) ≠ [] ∧
      (t.dropWhile fun c => !endsCallName c).head? = some '{')
    ⟨fun ⟨hne, hbrace⟩ => by
      obtain ⟨r, hr⟩ := List.head?_eq_some_iff.1 hbrace
      exact looksLikeCall_of_dropWhile hne hr,
    fun ⟨name, rest, hne, hname, ht⟩ => by
      have hall : ∀ c ∈ name, (!endsCallName c) = true :=
        fun c hc => not_endsCallName.2 (hname c hc)
      have hstop : (!endsCallName '{') = false := by decide
      rw [ht, List.takeWhile_append_of_pos hall, List.dropWhile_append_of_pos hall]
      simp [hstop, hne]⟩

theorem LooksLikeCall.of_append {a u : Text} (h : LooksLikeCall (a ++ u))
    (hu : u = [] ∨ ∃ v, u = '@' :: v) : LooksLikeCall a := by
  obtain ⟨name, rest, hne, hname, heq⟩ := h
  obtain ⟨m, ha, hm⟩ | ⟨m, hm, hu'⟩ := List.append_eq_append_iff.1 heq
  · cases m with
    | nil =>
      obtain rfl | ⟨v, rfl⟩ := hu
      · simp at hm
      · simp at hm
    | cons x m =>
      obtain rfl | ⟨v, rfl⟩ := hu
      · simp at hm
      · simp only [List.cons_append, List.cons.injEq] at hm
        exact absurd hm.1.symm (hname x (by simp [ha])).2.1
  · cases m with
    | nil =>
      obtain rfl | ⟨v, rfl⟩ := hu
      · simp at hu'
      · simp at hu'
    | cons x m =>
      simp only [List.cons_append, List.cons.injEq] at hu'
      exact ⟨name, m, hne, hname, by rw [hm, hu'.1]⟩

theorem intercalate_eq_append (a : Text) (as : List Text) :
    ∃ u, ['@'].intercalate (a :: as) = a ++ u ∧ (u = [] ∨ ∃ v, u = '@' :: v) := by
  cases as with
  | nil => exact ⟨[], by simp, .inl rfl⟩
  | cons b bs =>
    exact ⟨'@' :: ['@'].intercalate (b :: bs), by simp [List.intercalate_cons_cons], .inr ⟨_, rfl⟩⟩

theorem innerCall_intercalate {a : Text} (h : ¬LooksLikeCall a) (as : List Text) :
    innerCall (['@'].intercalate (a :: as)) = none := by
  obtain ⟨u, hu, hend⟩ := intercalate_eq_append a as
  cases hc : innerCall (['@'].intercalate (a :: as)) with
  | none => rfl
  | some p =>
    have hlook := looksLikeCall_of_innerCall hc
    rw [hu] at hlook
    exact absurd (hlook.of_append hend) h

theorem arguments_intercalate {as : List Text} (hne : as ≠ []) (hwhole : ∀ a ∈ as, Whole a)
    (hcall : ∀ a ∈ as.tail, ¬LooksLikeCall a) : arguments (['@'].intercalate as) = as := by
  induction as with
  | nil => exact absurd rfl hne
  | cons a as ih =>
    have ha : Whole a := hwhole a (by simp)
    cases as with
    | nil =>
      have h := ha []
      simpa [arguments, argumentsFrom, extend] using h
    | cons b bs =>
      have hrest : arguments (['@'].intercalate (b :: bs)) = b :: bs :=
        ih (by simp) (fun x hx => hwhole x (by simp [hx]))
          (fun x hx => hcall x (by simp [List.mem_of_mem_tail hx]))
      rw [List.intercalate_cons_cons, List.append_assoc, arguments, ha, List.singleton_append,
        argumentsFrom_separator (innerCall_intercalate (hcall b (by simp)) bs)]
      simpa [arguments, extend] using hrest

end Listing.Template
