import Listing.Template.Directive
import Listing.Template.Argument

namespace Listing.Template

def delimiters : List Char := ['[', ']', '{', '}']

/-- Text in which each bracket and brace has its partner, and pairs do not cross. -/
inductive Nested : Text → Prop
  | nil : Nested []
  | plain {c : Char} {t : Text} : c ∉ delimiters → Nested t → Nested (c :: t)
  | brackets {s t : Text} : Nested s → Nested t → Nested ('[' :: s ++ ']' :: t)
  | braces {s t : Text} : Nested s → Nested t → Nested ('{' :: s ++ '}' :: t)

theorem Nested.append {s t : Text} (hs : Nested s) (ht : Nested t) : Nested (s ++ t) := by
  induction hs with
  | nil => exact ht
  | plain hc _ ih => exact .plain hc ih
  | brackets hs _ _ ih => simpa using Nested.brackets hs ih
  | braces hs _ _ ih => simpa using Nested.braces hs ih

theorem nested_of_not_mem {s : Text} (h : ∀ c ∈ s, c ∉ delimiters) : Nested s := by
  induction s with
  | nil => exact .nil
  | cons c s ih => exact .plain (h c (by simp)) (ih fun x hx => h x (by simp [hx]))

theorem nested_intercalate {sep : Text} (hsep : Nested sep) {ts : List Text}
    (h : ∀ t ∈ ts, Nested t) : Nested (sep.intercalate ts) := by
  induction ts with
  | nil => simpa using Nested.nil
  | cons t ts ih =>
    cases ts with
    | nil => simpa using h t (by simp)
    | cons u us =>
      rw [List.intercalate_cons_cons]
      exact ((h t (by simp)).append hsep).append (ih fun x hx => h x (by simp [hx]))

/-- A search for the closer goes past the text, at every depth. -/
def Passes (opener closer : Char) (t : Text) : Prop :=
  ∀ depth rest, closing opener closer depth (t ++ rest) =
    (closing opener closer depth rest).map fun p => (t ++ p.1, p.2)

section Passes

variable {opener closer : Char}

theorem passes_nil : Passes opener closer [] := by
  intro depth rest
  simp

theorem Passes.cons {c : Char} {t : Text} (hc : c ≠ opener ∧ c ≠ closer)
    (ht : Passes opener closer t) : Passes opener closer (c :: t) := by
  intro depth rest
  have h : closing opener closer depth (c :: (t ++ rest)) =
      (closing opener closer depth (t ++ rest)).map fun p => (c :: p.1, p.2) := by
    simp [closing, hc.1, hc.2]
  rw [List.cons_append, h, ht]
  simp [Function.comp_def]

theorem Passes.append {s t : Text} (hs : Passes opener closer s) (ht : Passes opener closer t) :
    Passes opener closer (s ++ t) := by
  intro depth rest
  rw [List.append_assoc, hs, ht]
  simp [Function.comp_def]

theorem Passes.pair {s : Text} (h : opener ≠ closer) (hs : Passes opener closer s) :
    Passes opener closer (opener :: s ++ [closer]) := by
  intro depth rest
  have ho : closing opener closer depth (opener :: (s ++ closer :: rest)) =
      (closing opener closer (depth + 1) (s ++ closer :: rest)).map
        fun p => (opener :: p.1, p.2) := by
    simp [closing, h]
  have hc : closing opener closer (depth + 1) (closer :: rest) =
      (closing opener closer depth rest).map fun p => (closer :: p.1, p.2) := by
    simp [closing]
  have hl : opener :: s ++ [closer] ++ rest = opener :: (s ++ closer :: rest) := by simp
  rw [hl, ho, hs, hc]
  simp [Function.comp_def]

theorem Passes.other {a b : Char} {s : Text} (ha : a ≠ opener ∧ a ≠ closer)
    (hb : b ≠ opener ∧ b ≠ closer) (hs : Passes opener closer s) :
    Passes opener closer (a :: s ++ [b]) :=
  (Passes.cons ha hs).append (Passes.cons hb passes_nil)

theorem Passes.closing_eq {t : Text} (ht : Passes opener closer t) (rest : Text) :
    closing opener closer 0 (t ++ closer :: rest) = some (t, rest) := by
  rw [ht]
  simp [closing]

end Passes

theorem Nested.passes_brackets {t : Text} (ht : Nested t) : Passes '[' ']' t := by
  induction ht with
  | nil => exact passes_nil
  | plain hc _ ih =>
    simp only [delimiters, List.mem_cons, not_or] at hc
    exact ih.cons ⟨hc.1, hc.2.1⟩
  | brackets _ _ ihs iht => simpa using (ihs.pair (by decide)).append iht
  | braces _ _ ihs iht => simpa using (ihs.other (by decide) (by decide)).append iht

theorem Nested.passes_braces {t : Text} (ht : Nested t) : Passes '{' '}' t := by
  induction ht with
  | nil => exact passes_nil
  | plain hc _ ih =>
    simp only [delimiters, List.mem_cons, not_or] at hc
    exact ih.cons ⟨hc.2.2.1, hc.2.2.2.1⟩
  | brackets _ _ ihs iht => simpa using (ihs.other (by decide) (by decide)).append iht
  | braces _ _ ihs iht => simpa using (ihs.pair (by decide)).append iht

theorem cut_append {c : Char} {s : Text} (h : c ∉ s) (t : Text) :
    Text.cut c (s ++ c :: t) = some (s, t) := by
  induction s with
  | nil => simp [Text.cut]
  | cons x s ih =>
    simp only [List.mem_cons, not_or] at h
    simp [Text.cut, Ne.symm h.1, ih h.2]

theorem bracketed_append {color body : Text} (hcolor : ∀ c ∈ color, c ∉ delimiters)
    (hcolon : ':' ∉ color) (hbody : Nested body) (rest : Text) :
    bracketed (color ++ ':' :: body ++ ']' :: rest) = .ok ⟨color, body, rest⟩ := by
  have hinner : Nested (color ++ ':' :: body) :=
    (nested_of_not_mem hcolor).append (.plain (by decide) hbody)
  rw [bracketed, hinner.passes_brackets.closing_eq]
  simp [cut_append hcolon]

theorem braced_append {head body : Text} (hhead : '{' ∉ head) (hbody : Nested body) (rest : Text) :
    braced (head ++ '{' :: body ++ '}' :: rest) = .ok ⟨head, body, rest⟩ := by
  have hl : head ++ '{' :: body ++ '}' :: rest = head ++ '{' :: (body ++ '}' :: rest) := by simp
  rw [hl, braced, cut_append hhead]
  simp [hbody.passes_braces.closing_eq]

end Listing.Template
