import Listing.Template.Delimiter

namespace Listing.Template

def endsCallName (c : Char) : Bool := Text.isBlank c || c == '@' || c == '{'

/-- Reads what follows an `@` as a call: a name, and a body up to the matching brace. The first part
of the answer is what the call takes up. -/
def innerCall (t : Text) : Option (Text × Text) :=
  let name := t.takeWhile fun c => !endsCallName c
  if name = [] then none
  else
    match t.dropWhile fun c => !endsCallName c with
    | '{' :: r => (closing '{' '}' 0 r).map fun p => (name ++ '{' :: p.1 ++ ['}'], p.2)
    | _ => none

theorem innerCall_eq_some {t call rest : Text} (h : innerCall t = some (call, rest)) :
    t = call ++ rest := by
  rw [innerCall] at h
  split at h
  · simp at h
  · split at h
    · next r hr =>
      simp only [Option.map_eq_some_iff, Prod.mk.injEq] at h
      obtain ⟨p, hp, rfl, rfl⟩ := h
      have ht := List.takeWhile_append_dropWhile (p := fun c => !endsCallName c) (l := t)
      rw [hr, closing_eq_some hp] at ht
      simpa using ht.symm
    · simp at h

theorem length_rest_innerCall {t call rest : Text} (h : innerCall t = some (call, rest)) :
    rest.length ≤ t.length := by
  rw [innerCall_eq_some h]; simp

/-- The depth after a character, for one pair of delimiters. A closer without an opener counts
nothing. -/
def nest (opener closer c : Char) (depth : Nat) : Nat :=
  if c = opener then depth + 1 else if c = closer then depth - 1 else depth

def extend (s : Text) : List Text → List Text
  | [] => [s]
  | a :: as => (s ++ a) :: as

theorem intercalate_extend (sep s : Text) (as : List Text) :
    sep.intercalate (extend s as) = s ++ sep.intercalate as := by
  match as with
  | [] => simp [extend]
  | [a] => simp [extend]
  | a :: b :: as => simp [extend, List.intercalate_cons_cons]

/-- The arguments of what follows, when some braces and brackets are already open. -/
def argumentsFrom (braces brackets : Nat) (t : Text) : List Text :=
  match t with
  | [] => [[]]
  | c :: t =>
    if c = '@' ∧ braces = 0 ∧ brackets = 0 then
      match _h : innerCall t with
      | some (call, rest) => extend ('@' :: call) (argumentsFrom 0 0 rest)
      | none => [] :: argumentsFrom 0 0 t
    else extend [c] (argumentsFrom (nest '{' '}' c braces) (nest '[' ']' c brackets) t)
termination_by t.length
decreasing_by
  · have := length_rest_innerCall _h
    simp only [List.length_cons]
    omega
  · simp
  · simp

def arguments (t : Text) : List Text := argumentsFrom 0 0 t

theorem argumentsFrom_ne_nil (braces brackets : Nat) (t : Text) :
    argumentsFrom braces brackets t ≠ [] := by
  have hne (s : Text) (as : List Text) : extend s as ≠ [] := by cases as <;> simp [extend]
  rw [argumentsFrom.eq_def]
  repeat' split
  all_goals simp [hne]

theorem intercalate_argumentsFrom (braces brackets : Nat) (t : Text) :
    ['@'].intercalate (argumentsFrom braces brackets t) = t := by
  fun_induction argumentsFrom braces brackets t with
  | case1 => simp
  | case2 braces brackets c t hc call rest h ih =>
    rw [intercalate_extend, ih, innerCall_eq_some h, hc.1]
    rfl
  | case3 braces brackets c t hc h ih =>
    obtain ⟨a, as, has⟩ := List.exists_cons_of_ne_nil (argumentsFrom_ne_nil 0 0 t)
    rw [has, List.intercalate_cons_cons, ← has, ih, hc.1]
    rfl
  | case4 braces brackets c t hc ih =>
    rw [intercalate_extend, ih]
    rfl

theorem intercalate_arguments (t : Text) : ['@'].intercalate (arguments t) = t :=
  intercalate_argumentsFrom 0 0 t

/-- Places a list of arguments that starts at a position and has one separator between neighbours.
-/
def located (start : Nat) : List Text → List (Nat × Text)
  | [] => []
  | a :: as => (start, a) :: located (start + a.size + 1) as

theorem mem_of_mem_located {start : Nat} {as : List Text} {x : Nat × Text}
    (h : x ∈ located start as) : x.2 ∈ as := by
  induction as generalizing start with
  | nil => simp [located] at h
  | cons a as ih =>
    rcases List.mem_cons.1 h with rfl | h
    · exact List.mem_cons_self
    · exact List.mem_cons_of_mem _ (ih h)

theorem length_le_of_mem_arguments {t a : Text} (h : a ∈ arguments t) : a.length ≤ t.length := by
  have hlen : ∀ as : List Text, a ∈ as → a.length ≤ (['@'].intercalate as).length := by
    intro as
    induction as with
    | nil => simp
    | cons b as ih =>
      intro hm
      cases as with
      | nil => simp_all
      | cons c as =>
        rw [List.intercalate_cons_cons]
        rcases List.mem_cons.1 hm with rfl | hm
        · simp
        · have := ih hm
          simp
          omega
  simpa [intercalate_arguments] using hlen _ h

end Listing.Template
