import Mathlib.Data.List.MinMax
import Listing.Paint.Stroke

namespace Listing

/-- A pair of brackets in a list of tokens, by the places that they have in it. -/
structure Span where
  name : Text
  start : Nat
  stop : Nat
  deriving DecidableEq

namespace Span

/-- The pairs in the tokens from place `n` on, below which the names and places on the stack are
open, innermost first. -/
def matching (stack : List (Text × Nat)) (n : Nat) : List Token → List Span
  | [] => []
  | .opening name _ :: ts => matching ((name, n) :: stack) (n + 1) ts
  | .closing :: ts =>
    match stack with
    | [] => matching [] (n + 1) ts
    | e :: stack => ⟨e.1, e.2, n⟩ :: matching stack (n + 1) ts
  | .glyph _ :: ts => matching stack (n + 1) ts
  | .escaped _ :: ts => matching stack (n + 1) ts

def ofTokens (ts : List Token) : List Span := matching [] 0 ts

/-- How many of the brackets that are open before these tokens are closed by them. -/
def closed : List Token → Nat
  | [] => 0
  | .opening _ _ :: ts => closed ts - 1
  | .closing :: ts => closed ts + 1
  | .glyph _ :: ts => closed ts
  | .escaped _ :: ts => closed ts

theorem closes_eq (depth : Nat) (ts : List Token) :
    Stroke.closes depth ts = decide (depth < closed ts) := by
  induction ts generalizing depth with
  | nil => simp [Stroke.closes, closed]
  | cons tok ts ih =>
    cases tok with
    | glyph c | escaped c => rw [Stroke.closes, ih, closed] <;> simp
    | opening name offset =>
      rw [Stroke.closes, ih, closed, decide_eq_decide]
      omega
    | closing =>
      cases depth with
      | zero => simp [Stroke.closes, closed]
      | succ depth =>
        rw [Stroke.closes, ih, closed, decide_eq_decide]
        omega

theorem le_stop {stack : List (Text × Nat)} {n : Nat} {ts : List Token} {s : Span}
    (h : s ∈ matching stack n ts) : n ≤ s.stop := by
  induction ts generalizing stack n with
  | nil => simp [matching] at h
  | cons tok ts ih =>
    cases tok with
    | glyph c | escaped c | opening name offset => exact Nat.le_of_succ_le (ih h)
    | closing =>
      cases stack with
      | nil => exact Nat.le_of_succ_le (ih h)
      | cons e stack =>
        rw [matching, List.mem_cons] at h
        obtain rfl | h := h
        · exact Nat.le_refl n
        · exact Nat.le_of_succ_le (ih h)

/-- The pairs that reach back before a place are those that the stack gives partners to, from the
innermost one to as many as are closed. -/
theorem filter_matching {m n : Nat} (hmn : m ≤ n) (stack : List (Text × Nat)) (ts : List Token) :
    ((matching stack n ts).filter fun s => decide (s.start < m)).map (fun s => (s.name, s.start)) =
      (stack.take (closed ts)).filter fun e => decide (e.2 < m) := by
  induction ts generalizing stack n with
  | nil => simp [matching, closed]
  | cons tok ts ih =>
    have hsucc : m ≤ n + 1 := by omega
    cases tok with
    | glyph c | escaped c => exact ih hsucc stack
    | opening name offset =>
      rw [matching, ih hsucc, closed]
      cases closed ts with
      | zero => simp
      | succ k => simp [hmn]
    | closing =>
      cases stack with
      | nil =>
        rw [matching, ih hsucc]
        simp
      | cons e stack =>
        rw [matching, closed, List.take_succ_cons, List.filter_cons, List.filter_cons]
        by_cases he : e.2 < m
        · simp [he, ih hsucc]
        · simp [he, ih hsucc]

end Span

end Listing
