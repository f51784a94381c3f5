import Listing.Proofs.Template.Joined
import Listing.Proofs.Template.Visited

namespace Listing.Template

theorem innerCall_eq_some_iff {t call rest : Text} :
    innerCall t = some (call, rest) ↔ ∃ name body, name ≠ [] ∧ (∀ c ∈ name, InCallName c) ∧
      Closed '{' '}' 0 body ∧ call = name ++ '{' :: body ++ ['}'] ∧ t = call ++ rest := by
  constructor
  · intro h
    have ht := innerCall_eq_some h
    rw [innerCall] at h
    split at h
    · cases h
    · next hne =>
      split at h
      · next r hr =>
        obtain ⟨p, hp, hpair⟩ := Option.map_eq_some_iff.1 h
        cases hpair
        have hname : ∀ c ∈ t.takeWhile fun c => !endsCallName c, InCallName c := fun c hc =>
          not_endsCallName.1 (List.all_eq_true.1 List.all_takeWhile c hc)
        exact ⟨_, p.1, hne, hname, closed_of_closing (by decide) hp, rfl, ht⟩
      · cases h
  · rintro ⟨name, body, hne, hname, hbody, rfl, rfl⟩
    have hall : ∀ c ∈ name, (!endsCallName c) = true := fun c hc => not_endsCallName.2 (hname c hc)
    have hstop : (!endsCallName '{') = false := by decide
    have hl : name ++ '{' :: body ++ ['}'] ++ rest = name ++ '{' :: (body ++ '}' :: rest) := by simp
    rw [hl, innerCall, List.takeWhile_append_of_pos hall, List.dropWhile_append_of_pos hall]
    simp [hstop, hne, closing_append (by decide) hbody]

theorem innerCall_congr {t call rest : Text} (h : innerCall t = some (call, rest)) (u : Text) :
    innerCall (call ++ u) = some (call, u) := by
  obtain ⟨name, body, hne, hname, hbody, hcall, -⟩ := innerCall_eq_some_iff.1 h
  exact innerCall_eq_some_iff.2 ⟨name, body, hne, hname, hbody, hcall, rfl⟩

/-- The braces and brackets that are open at the end of a scan for separators. -/
def openAfter (braces brackets : Nat) (t : Text) : Nat × Nat :=
  match t with
  | [] => (braces, brackets)
  | c :: t =>
    if c = '@' ∧ braces = 0 ∧ brackets = 0 then
      match _h : innerCall t with
      | some (_, rest) => openAfter 0 0 rest
      | none => openAfter 0 0 t
    else openAfter (nest '{' '}' c braces) (nest '[' ']' c brackets) t
termination_by t.length
decreasing_by
  · have := length_rest_innerCall _h
    simp only [List.length_cons]
    omega
  · simp
  · simp

theorem extend_eq_singleton_iff {s a : Text} {as : List Text} (hne : as ≠ []) :
    extend s as = [s ++ a] ↔ as = [a] := by
  cases as with
  | nil => exact absurd rfl hne
  | cons b bs => simp [extend]

/-- What comes after an argument is scanned from where the argument leaves off. -/
theorem argumentsFrom_append {braces brackets : Nat} {a : Text}
    (ha : argumentsFrom braces brackets a = [a]) (rest : Text) :
    argumentsFrom braces brackets (a ++ rest) = extend a
      (argumentsFrom (openAfter braces brackets a).1 (openAfter braces brackets a).2 rest) := by
  fun_induction openAfter braces brackets a with
  | case1 braces brackets => exact (extend_nil (argumentsFrom_ne_nil _ _ rest)).symm
  | case2 braces brackets c t hc call u hcall ih =>
    obtain ⟨rfl, rfl, rfl⟩ := hc
    obtain rfl := innerCall_eq_some hcall
    rw [argumentsFrom_call hcall, ← List.cons_append,
      extend_eq_singleton_iff (argumentsFrom_ne_nil 0 0 u)] at ha
    have hrest : innerCall (call ++ u ++ rest) = some (call, u ++ rest) := by
      rw [List.append_assoc]
      exact innerCall_congr hcall (u ++ rest)
    rw [List.cons_append, argumentsFrom_call hrest, ih ha, extend_extend]
    rfl
  | case3 braces brackets c t hc hcall ih =>
    obtain ⟨rfl, rfl, rfl⟩ := hc
    rw [argumentsFrom_separator hcall] at ha
    simp at ha
  | case4 braces brackets c t hc ih =>
    have ht : argumentsFrom (nest '{' '}' c braces) (nest '[' ']' c brackets) t = [t] := by
      rwa [argumentsFrom_inside _ _ hc, ← List.singleton_append (l := t),
        extend_eq_singleton_iff (argumentsFrom_ne_nil _ _ t)] at ha
    rw [List.cons_append, argumentsFrom_inside _ _ hc, ih ht, extend_extend]
    rfl

theorem whole_of_arguments {a : Text} (ha : arguments a = [a]) (hopen : openAfter 0 0 a = (0, 0)) :
    Whole a := by
  intro rest
  rw [argumentsFrom_append ha, hopen]

/-- Arguments come apart again where they have been joined. -/
theorem arguments_joined {as : List Text} (hne : as ≠ []) (hone : ∀ a ∈ as, arguments a = [a])
    (hopen : ∀ a ∈ as, openAfter 0 0 a = (0, 0)) (hcall : ∀ a ∈ as.tail, ¬LooksLikeCall a) :
    arguments (['@'].intercalate as) = as :=
  arguments_intercalate hne (fun a ha => whole_of_arguments (hone a ha) (hopen a ha)) hcall

def joinedArguments : List Text :=
  ["f\x7b@\x7d", "", "x\x7d] y\x7b\x7d", "@f\x7b[@g\x7b@\x7d\x7dé", "[ \x7b@]\x7d", "@h\x7b\x7d$a"]

theorem arguments_joined_unbalanced :
    (∀ a ∈ joinedArguments, arguments a = [a] ∧ openAfter 0 0 a = (0, 0)) ∧
    (∀ a ∈ joinedArguments.tail, ¬LooksLikeCall a) ∧
    arguments "f\x7b@\x7d@@x\x7d] y\x7b\x7d@@f\x7b[@g\x7b@\x7d\x7dé@[ \x7b@]\x7d@@h\x7b\x7d$a" =
      joinedArguments := by
  have hone : ∀ a ∈ joinedArguments, arguments a = [a] := by decide +kernel
  have hopen : ∀ a ∈ joinedArguments, openAfter 0 0 a = (0, 0) := by decide +kernel
  have hcall : ∀ a ∈ joinedArguments.tail, ¬LooksLikeCall a := by decide
  exact ⟨fun a ha => ⟨hone a ha, hopen a ha⟩, hcall,
    arguments_joined (List.cons_ne_nil _ _) hone hopen hcall⟩

/-- No argument can be separated further, and the first one not even where braces and brackets are
open before it. -/
theorem arguments_of_argumentsFrom {braces brackets : Nat} {t a : Text} {as : List Text}
    (h : argumentsFrom braces brackets t = a :: as) :
    argumentsFrom braces brackets a = [a] ∧ ∀ b ∈ as, arguments b = [b] := by
  fun_induction argumentsFrom braces brackets t generalizing a as with
  | case1 braces brackets =>
    cases h
    exact ⟨by rw [argumentsFrom], fun b hb => absurd hb List.not_mem_nil⟩
  | case2 braces brackets c t hc call rest hcall ih =>
    obtain ⟨rfl, rfl, rfl⟩ := hc
    obtain ⟨b, bs, hbs⟩ := List.exists_cons_of_ne_nil (argumentsFrom_ne_nil 0 0 rest)
    obtain ⟨hb, htail⟩ := ih hbs
    rw [hbs] at h
    cases h
    refine ⟨?_, htail⟩
    rw [List.cons_append, argumentsFrom_call (innerCall_congr hcall b), hb]
    rfl
  | case3 braces brackets c t hc hcall ih =>
    obtain ⟨b, bs, hbs⟩ := List.exists_cons_of_ne_nil (argumentsFrom_ne_nil 0 0 t)
    obtain ⟨hb, htail⟩ := ih hbs
    rw [hbs] at h
    cases h
    have hall : ∀ x ∈ b :: bs, arguments x = [x] := by
      rw [List.forall_mem_cons]
      exact ⟨hb, htail⟩
    exact ⟨by rw [argumentsFrom], hall⟩
  | case4 braces brackets c t hc ih =>
    obtain ⟨b, bs, hbs⟩ := List.exists_cons_of_ne_nil (argumentsFrom_ne_nil _ _ t)
    obtain ⟨hb, htail⟩ := ih hbs
    rw [hbs] at h
    cases h
    refine ⟨?_, htail⟩
    rw [List.singleton_append, argumentsFrom_inside _ _ hc, hb]
    rfl

theorem arguments_of_mem {t a : Text} (h : a ∈ arguments t) : arguments a = [a] := by
  obtain ⟨b, bs, hbs⟩ := List.exists_cons_of_ne_nil (argumentsFrom_ne_nil 0 0 t)
  obtain ⟨hb, htail⟩ := arguments_of_argumentsFrom hbs
  rw [arguments, hbs, List.mem_cons] at h
  rcases h with rfl | ha
  · exact hb
  · exact htail a ha

theorem located_append (start : Nat) (as bs : List Text) :
    located start (as ++ bs) =
      located start as ++ located (start + Text.size (argumentsBefore as)) bs := by
  induction as generalizing start with
  | nil => rfl
  | cons a as ih =>
    have hat : '@'.utf8Size = 1 := rfl
    have hstart : start + a.size + 1 + Text.size (argumentsBefore as) =
        start + Text.size (argumentsBefore (a :: as)) := by
      simp only [argumentsBefore, Text.size_append, Text.size_cons, hat]
      omega
    rw [List.cons_append, located, located, ih, hstart, List.cons_append]

theorem map_snd_located (start : Nat) (as : List Text) : (located start as).map Prod.snd = as := by
  induction as generalizing start with
  | nil => rfl
  | cons a as ih => rw [located, List.map_cons, ih]

theorem length_located (start : Nat) (as : List Text) : (located start as).length = as.length := by
  rw [← List.length_map Prod.snd, map_snd_located]

/-- One of the arguments and its position, those before it, and those after it. -/
theorem located_eq_append_cons {start : Nat} {as : List Text} {x : Nat × Text}
    {xs ys : List (Nat × Text)} (h : located start as = xs ++ x :: ys) :
    as = xs.map Prod.snd ++ x.2 :: ys.map Prod.snd ∧
      x.1 = start + Text.size (argumentsBefore (xs.map Prod.snd)) ∧
      ys = located (x.1 + x.2.size + 1) (ys.map Prod.snd) := by
  have has : as = xs.map Prod.snd ++ x.2 :: ys.map Prod.snd := by
    rw [← map_snd_located start as, h, List.map_append, List.map_cons]
  refine ⟨has, ?_⟩
  rw [has, located_append] at h
  have hsame := (List.append_inj h (by rw [length_located, List.length_map])).2
  rw [located, List.cons.injEq] at hsame
  have hstart := congrArg Prod.fst hsame.1
  rw [← hstart]
  exact ⟨rfl, hsame.2.symm⟩

/-- The arguments of a body fill it from its start to its end, but for one separator behind each
argument that has a next one. -/
theorem arguments_tile (body : Text) :
    (∃ a as, located 0 (arguments body) = (0, a) :: as) ∧
    (∀ xs x ys, located 0 (arguments body) = xs ++ x :: ys →
      ∃ before after, body = before ++ x.2 ++ after ∧ before.size = x.1 ∧
        (ys = [] → after = []) ∧
        ∀ y zs, ys = y :: zs → (∃ u, after = '@' :: u) ∧ y.1 = x.1 + x.2.size + 1) ∧
    ['@'].intercalate (arguments body) = body ∧
    ∀ a ∈ arguments body, arguments a = [a] := by
  refine ⟨?_, ?_, intercalate_arguments body, fun a ha => arguments_of_mem ha⟩
  · obtain ⟨a, as, has⟩ := List.exists_cons_of_ne_nil (argumentsFrom_ne_nil 0 0 body)
    exact ⟨a, _, by rw [arguments, has, located]⟩
  · intro xs x ys h
    obtain ⟨has, hx, hys⟩ := located_eq_append_cons h
    refine ⟨argumentsBefore (xs.map Prod.snd), argumentsAfter (ys.map Prod.snd), ?_, ?_, ?_, ?_⟩
    · rw [← intercalate_around, ← has, intercalate_arguments]
    · rw [hx, Nat.zero_add]
    · rintro rfl
      rfl
    · rintro y zs rfl
      rw [List.map_cons, located, List.cons.injEq] at hys
      exact ⟨⟨y.2 ++ argumentsAfter (zs.map Prod.snd), rfl⟩, congrArg Prod.fst hys.1⟩

end Listing.Template
