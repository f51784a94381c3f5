import Listing.Text

namespace Listing.Template

/-- Splits a text at the delimiter that closes the innermost of `depth + 1` open ones and leads back
to depth zero, which is left out. -/
def closing (opener closer : Char) : Nat → Text → Option (Text × Text)
  | _, [] => none
  | depth, c :: t =>
    if c = closer then
      match depth with
      | 0 => some ([], t)
      | depth + 1 => (closing opener closer depth t).map fun p => (c :: p.1, p.2)
    else if c = opener then
      (closing opener closer (depth + 1) t).map fun p => (c :: p.1, p.2)
    else (closing opener closer depth t).map fun p => (c :: p.1, p.2)

theorem closing_eq_some {opener closer : Char} {depth : Nat} {t inner rest : Text}
    (h : closing opener closer depth t = some (inner, rest)) : t = inner ++ closer :: rest := by
  fun_induction closing opener closer depth t generalizing inner with
  | case1 => simp at h
  | case2 t =>
    simp only [Option.some.injEq, Prod.mk.injEq] at h
    obtain ⟨rfl, rfl⟩ := h
    rfl
  | case3 t depth ih | case4 depth t hc ih | case5 depth c t hc ho ih =>
    simp only [Option.map_eq_some_iff, Prod.mk.injEq] at h
    obtain ⟨p, hp, rfl, rfl⟩ := h
    simpa using ih hp

/-- A directive that has been delimited: what stands before its body, the body, and what follows
the directive. -/
structure Part where
  head : Text
  body : Text
  rest : Text
  deriving DecidableEq

end Listing.Template
