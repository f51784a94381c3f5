import Listing.Proofs.Template.Broken
import Listing.Proofs.Template.Reading

namespace Listing.Template

/-- The directives that a traversal goes into: all of them and their arguments, or color spans and
some of the conditions. -/
inductive Route
  | everywhere
  | past (condition : Text → Bool)

namespace Route

def condition : Route → Text → Bool
  | everywhere, _ => true
  | past f, key => f key

def arguments : Route → Bool
  | everywhere => true
  | past _ => false

end Route

/-- The first character or directive of a body, and what follows it there. -/
inductive Steps : Text → Text → Text → Prop
  | literal {c : Char} {t : Text} : c ∉ ['[', '?', '@', '$'] → Steps (c :: t) [c] t
  | value {t : Text} : Steps ('$' :: t) ('$' :: valueName t) (t.drop (valueName t).length)
  | span {t : Text} {p : Part} : bracketed t = .ok p →
      Steps ('[' :: t) ('[' :: p.head ++ ':' :: p.body ++ [']']) p.rest
  | block {c : Char} {t : Text} {p : Part} : c ∈ ['?', '@'] → braced t = .ok p →
      Steps (c :: t) (c :: p.head ++ '{' :: p.body ++ ['}']) p.rest

/-- A traversal of a body comes to `rest` after `before`. -/
inductive Reaches : Text → Text → Text → Prop
  | start {t : Text} : Reaches t [] t
  | step {t s u before rest : Text} : Steps t s u → Reaches u before rest →
      Reaches t (s ++ before) rest

def argumentsBefore : List Text → Text
  | [] => []
  | a :: as => a ++ '@' :: argumentsBefore as

def argumentsAfter : List Text → Text
  | [] => []
  | a :: as => '@' :: a ++ argumentsAfter as

/-- A body that a traversal goes into at a directive, between the start of the directive and what
follows the body. -/
inductive Opens (route : Route) : Text → Text → Text → Text → Prop
  | span {t : Text} {p : Part} : bracketed t = .ok p →
      Opens route ('[' :: t) ('[' :: p.head ++ [':']) p.body (']' :: p.rest)
  | condition {t : Text} {p : Part} : braced t = .ok p → route.condition p.head = true →
      Opens route ('?' :: t) ('?' :: p.head ++ ['{']) p.body ('}' :: p.rest)
  | argument {t a : Text} {p : Part} {as bs : List Text} : braced t = .ok p →
      route.arguments = true → Template.arguments p.body = as ++ a :: bs →
      Opens route ('@' :: t) ('@' :: p.head ++ '{' :: argumentsBefore as) a
        (argumentsAfter bs ++ '}' :: p.rest)

/-- The bodies of a template, each between what stands before it and after it: the template itself,
and what lies inside a chain of directives. -/
inductive Encloses (route : Route) : Text → Text → Text → Text → Prop
  | whole {t : Text} : Encloses route t [] t []
  | inside {t before directive x u y outer body after : Text} : Reaches t before directive →
      Opens route directive x u y → Encloses route u outer body after →
      Encloses route t (before ++ x ++ outer) body (after ++ y)

/-- At byte `n`, in a text that starts at byte `pos`, a traversal comes to `rest` of the body that
it is in. -/
def Visits (route : Route) (pos : Nat) (t : Text) (n : Nat) (rest : Text) : Prop :=
  ∃ outer body after before, Encloses route t outer body after ∧ Reaches body before rest ∧
    n = pos + outer.size + before.size

theorem valueName_append_drop (t : Text) : valueName t ++ t.drop (valueName t).length = t :=
  List.prefix_iff_eq_append.1 (List.takeWhile_prefix _)

theorem Steps.eq_append {t s u : Text} (h : Steps t s u) : t = s ++ u := by
  cases h with
  | literal => rfl
  | value => rw [List.cons_append, valueName_append_drop]
  | span h => simp [bracketed_eq_ok h]
  | block _ h => simp [braced_eq_ok h]

theorem Reaches.eq_append {t before rest : Text} (h : Reaches t before rest) :
    t = before ++ rest := by
  induction h with
  | start => rfl
  | step hs _ ih => rw [hs.eq_append, ih, List.append_assoc]

theorem intercalate_around (as bs : List Text) (a : Text) :
    ['@'].intercalate (as ++ a :: bs) = argumentsBefore as ++ a ++ argumentsAfter bs := by
  induction as with
  | nil =>
    induction bs generalizing a with
    | nil => simp [argumentsBefore, argumentsAfter]
    | cons b bs ih =>
      rw [List.nil_append, List.intercalate_cons_cons, ← List.nil_append (b :: bs), ih]
      simp [argumentsBefore, argumentsAfter]
  | cons x as ih =>
    obtain ⟨y, ys, hys⟩ := List.exists_cons_of_ne_nil (l := as ++ a :: bs) (by simp)
    rw [List.cons_append, hys, List.intercalate_cons_cons, ← hys, ih]
    simp [argumentsBefore]

theorem Opens.eq_append {route : Route} {t x u y : Text} (h : Opens route t x u y) :
    t = x ++ u ++ y := by
  cases h with
  | span h => simp [bracketed_eq_ok h]
  | condition h => simp [braced_eq_ok h]
  | @argument _ _ p as bs h _ hargs =>
    have hbody : p.body = argumentsBefore as ++ u ++ argumentsAfter bs := by
      rw [← intercalate_around, ← hargs, intercalate_arguments]
    simp [braced_eq_ok h, hbody]

theorem Encloses.eq_append {route : Route} {t outer body after : Text}
    (h : Encloses route t outer body after) : t = outer ++ body ++ after := by
  induction h with
  | whole => simp
  | inside hreaches hopens _ ih =>
    rw [hreaches.eq_append, hopens.eq_append, ih]
    simp

theorem Visits.le {route : Route} {pos n : Nat} {t rest : Text} (h : Visits route pos t n rest) :
    pos ≤ n := by
  obtain ⟨outer, body, after, before, -, -, rfl⟩ := h
  omega

theorem Visits.add_size_le {route : Route} {pos n : Nat} {t rest : Text}
    (h : Visits route pos t n rest) : n + rest.size ≤ pos + t.size := by
  obtain ⟨outer, body, after, before, henc, hreaches, rfl⟩ := h
  rw [henc.eq_append, hreaches.eq_append]
  simp only [Text.size_append]
  omega

theorem Opens.everywhere {route : Route} {t x u y : Text} (h : Opens route t x u y) :
    Opens .everywhere t x u y := by
  cases h with
  | span h => exact .span h
  | condition h _ => exact .condition h rfl
  | argument h _ hargs => exact .argument h rfl hargs

theorem Encloses.everywhere {route : Route} {t outer body after : Text}
    (h : Encloses route t outer body after) : Encloses .everywhere t outer body after := by
  induction h with
  | whole => exact .whole
  | inside hreaches hopens _ ih => exact .inside hreaches hopens.everywhere ih

theorem Visits.everywhere {route : Route} {pos n : Nat} {t rest : Text}
    (h : Visits route pos t n rest) : Visits .everywhere pos t n rest := by
  obtain ⟨outer, body, after, before, hencloses, hplace⟩ := h
  exact ⟨outer, body, after, before, hencloses.everywhere, hplace⟩

theorem visits_iff {route : Route} {pos n : Nat} {t rest : Text} :
    Visits route pos t n rest ↔ (n = pos ∧ rest = t) ∨
      (∃ x u y, Opens route t x u y ∧ Visits route (pos + x.size) u n rest) ∨
      ∃ s u, Steps t s u ∧ Visits route (pos + s.size) u n rest := by
  constructor
  · rintro ⟨outer, body, after, before, henc, hreaches, rfl⟩
    cases henc with
    | whole =>
      cases hreaches with
      | start => exact .inl ⟨rfl, rfl⟩
      | step hs hr =>
        exact .inr (.inr ⟨_, _, hs, _, _, _, _, .whole, hr, by simp [Nat.add_assoc]⟩)
    | inside hfirst hopens henc =>
      cases hfirst with
      | start =>
        exact .inr (.inl ⟨_, _, _, hopens, _, _, _, _, henc, hreaches, by simp [Nat.add_assoc]⟩)
      | step hs hr =>
        exact .inr (.inr ⟨_, _, hs, _, _, _, _, .inside hr hopens henc, hreaches,
          by simp [Nat.add_assoc]⟩)
  · rintro (⟨rfl, rfl⟩ | ⟨x, u, y, hopens, outer, body, after, before, henc, hreaches, rfl⟩ |
      ⟨s, u, hs, outer, body, after, before, henc, hreaches, rfl⟩)
    · exact ⟨_, _, _, _, .whole, .start, rfl⟩
    · exact ⟨_, _, _, _, .inside .start hopens henc, hreaches, by simp [Nat.add_assoc]⟩
    · cases henc with
      | whole => exact ⟨_, _, _, _, .whole, .step hs hreaches, by simp [Nat.add_assoc]⟩
      | inside hfirst hopens henc =>
        exact ⟨_, _, _, _, .inside (.step hs hfirst) hopens henc, hreaches, by simp [Nat.add_assoc]⟩

section Equations

variable {route : Route} {t s u : Text} {p : Part} {fault : Fault} {c : Char}

theorem steps_literal (hc : c ∉ ['[', '?', '@', '$']) :
    Steps (c :: t) s u ↔ s = [c] ∧ u = t := by
  constructor
  · intro h
    cases h with
    | literal => exact ⟨rfl, rfl⟩
    | value | span => simp at hc
    | block h => exact absurd (List.mem_cons_of_mem _ (List.mem_append_left ['$'] h)) hc
  · rintro ⟨rfl, rfl⟩
    exact .literal hc

theorem steps_value :
    Steps ('$' :: t) s u ↔ s = '$' :: valueName t ∧ u = t.drop (valueName t).length := by
  constructor
  · intro h
    cases h with
    | literal h | block h => simp at h
    | value => exact ⟨rfl, rfl⟩
  · rintro ⟨rfl, rfl⟩
    exact .value

theorem steps_span (hp : bracketed t = .ok p) :
    Steps ('[' :: t) s u ↔ s = '[' :: p.head ++ ':' :: p.body ++ [']'] ∧ u = p.rest := by
  constructor
  · intro h
    cases h with
    | literal h | block h => simp at h
    | span h =>
      rw [hp] at h
      cases h
      exact ⟨rfl, rfl⟩
  · rintro ⟨rfl, rfl⟩
    exact .span hp

theorem steps_block (hc : c ∈ ['?', '@']) (hp : braced t = .ok p) :
    Steps (c :: t) s u ↔ s = c :: p.head ++ '{' :: p.body ++ ['}'] ∧ u = p.rest := by
  constructor
  · intro h
    cases h with
    | literal h => exact absurd (List.mem_cons_of_mem _ (List.mem_append_left ['$'] hc)) h
    | value | span => simp at hc
    | block _ h =>
      rw [hp] at h
      cases h
      exact ⟨rfl, rfl⟩
  · rintro ⟨rfl, rfl⟩
    exact .block hc hp

theorem opens_span {x y : Text} (hp : bracketed t = .ok p) :
    Opens route ('[' :: t) x u y ↔ x = '[' :: p.head ++ [':'] ∧ u = p.body ∧ y = ']' :: p.rest := by
  constructor
  · intro h
    cases h with
    | span h =>
      rw [hp] at h
      cases h
      exact ⟨rfl, rfl, rfl⟩
  · rintro ⟨rfl, rfl, rfl⟩
    exact .span hp

theorem opens_condition {x y : Text} (hp : braced t = .ok p) :
    Opens route ('?' :: t) x u y ↔ route.condition p.head = true ∧
      x = '?' :: p.head ++ ['{'] ∧ u = p.body ∧ y = '}' :: p.rest := by
  constructor
  · intro h
    cases h with
    | condition h hkey =>
      rw [hp] at h
      cases h
      exact ⟨hkey, rfl, rfl, rfl⟩
  · rintro ⟨hkey, rfl, rfl, rfl⟩
    exact .condition hp hkey

theorem opens_argument {x y : Text} (hp : braced t = .ok p) :
    Opens route ('@' :: t) x u y ↔ route.arguments = true ∧
      ∃ as bs, arguments p.body = as ++ u :: bs ∧
        x = '@' :: p.head ++ '{' :: argumentsBefore as ∧
        y = argumentsAfter bs ++ '}' :: p.rest := by
  constructor
  · intro h
    cases h with
    | argument h harguments has =>
      rw [hp] at h
      cases h
      exact ⟨harguments, _, _, has, rfl, rfl⟩
  · rintro ⟨harguments, as, bs, has, rfl, rfl⟩
    exact .argument hp harguments has

theorem mem_located_iff {start : Nat} {as : List Text} {x : Nat × Text} :
    x ∈ located start as ↔
      ∃ bs cs, as = bs ++ x.2 :: cs ∧ x.1 = start + Text.size (argumentsBefore bs) := by
  induction as generalizing start with
  | nil => simp [located]
  | cons a as ih =>
    rw [located, List.mem_cons, ih]
    constructor
    · rintro (rfl | ⟨bs, cs, rfl, hx⟩)
      · exact ⟨[], as, rfl, rfl⟩
      · refine ⟨a :: bs, cs, rfl, ?_⟩
        have hat : '@'.utf8Size = 1 := rfl
        simp only [hx, argumentsBefore, Text.size_append, Text.size_cons, hat]
        omega
    · rintro ⟨bs, cs, has, hx⟩
      cases bs with
      | nil =>
        obtain ⟨rfl, rfl⟩ := List.cons.inj has
        exact .inl (Prod.ext hx rfl)
      | cons b bs =>
        obtain ⟨rfl, rfl⟩ := List.cons.inj has
        refine .inr ⟨bs, cs, rfl, ?_⟩
        have hat : '@'.utf8Size = 1 := rfl
        simp only [hx, argumentsBefore, Text.size_append, Text.size_cons, hat]
        omega

variable {pos n : Nat} {rest : Text}

theorem visits_nil : Visits route pos [] n rest ↔ n = pos ∧ rest = [] := by
  rw [visits_iff]
  refine or_iff_left ?_
  rintro (⟨x, u, y, ⟨⟩, -⟩ | ⟨s, u, ⟨⟩, -⟩)

theorem visits_literal (hc : c ∉ ['[', '?', '@', '$']) :
    Visits route pos (c :: t) n rest ↔
      (n = pos ∧ rest = c :: t) ∨ Visits route (pos + c.utf8Size) t n rest := by
  have hopens (x u y : Text) : ¬Opens route (c :: t) x u y := by
    intro h
    cases h <;> simp at hc
  rw [visits_iff]
  simp [hopens, steps_literal hc, and_assoc]

theorem visits_value :
    Visits route pos ('$' :: t) n rest ↔ (n = pos ∧ rest = '$' :: t) ∨
      Visits route (pos + 1 + (valueName t).size) (t.drop (valueName t).length) n rest := by
  have hopens (x u y : Text) : ¬Opens route ('$' :: t) x u y := nofun
  have hdollar : '$'.utf8Size = 1 := rfl
  rw [visits_iff]
  simp [hopens, steps_value, and_assoc, hdollar, Nat.add_assoc]

theorem size_before_body {a b : Char} (ha : a.utf8Size = 1) (hb : b.utf8Size = 1) (pos : Nat)
    (head : Text) : pos + Text.size (a :: head ++ [b]) = pos + head.size + 2 := by
  simp only [Text.size_append, Text.size_cons, Text.size_nil, ha, hb]
  omega

theorem size_directive {a b c : Char} (ha : a.utf8Size = 1) (hb : b.utf8Size = 1)
    (hc : c.utf8Size = 1) (pos : Nat) (head body : Text) :
    pos + Text.size (a :: head ++ b :: body ++ [c]) = pos + head.size + body.size + 3 := by
  simp only [Text.size_append, Text.size_cons, Text.size_nil, ha, hb, hc]
  omega

theorem visits_span (hp : bracketed t = .ok p) :
    Visits route pos ('[' :: t) n rest ↔ (n = pos ∧ rest = '[' :: t) ∨
      Visits route (pos + p.head.size + 2) p.body n rest ∨
      Visits route (pos + p.head.size + p.body.size + 3) p.rest n rest := by
  have hx := size_before_body (a := '[') (b := ':') rfl rfl pos p.head
  have hs := size_directive (a := '[') (b := ':') (c := ']') rfl rfl rfl pos p.head p.body
  rw [visits_iff]
  simp only [steps_span hp, opens_span hp, and_assoc, exists_and_left, exists_eq_left, hx, hs]

theorem visits_condition (hp : braced t = .ok p) :
    Visits route pos ('?' :: t) n rest ↔ (n = pos ∧ rest = '?' :: t) ∨
      (route.condition p.head = true ∧ Visits route (pos + p.head.size + 2) p.body n rest) ∨
      Visits route (pos + p.head.size + p.body.size + 3) p.rest n rest := by
  have hc : '?' ∈ ['?', '@'] := by decide
  have hx := size_before_body (a := '?') (b := '{') rfl rfl pos p.head
  have hs := size_directive (a := '?') (b := '{') (c := '}') rfl rfl rfl pos p.head p.body
  rw [visits_iff]
  simp only [steps_block hc hp, opens_condition hp, and_assoc, exists_and_left, exists_eq_left, hx,
    hs]

theorem visits_call (hp : braced t = .ok p) :
    Visits route pos ('@' :: t) n rest ↔ (n = pos ∧ rest = '@' :: t) ∨
      (route.arguments = true ∧ ∃ x ∈ located (pos + p.head.size + 2) (arguments p.body),
        Visits route x.1 x.2 n rest) ∨
      Visits route (pos + p.head.size + p.body.size + 3) p.rest n rest := by
  have hc : '@' ∈ ['?', '@'] := by decide
  have hs := size_directive (a := '@') (b := '{') (c := '}') rfl rfl rfl pos p.head p.body
  have hargs : (∃ x u y, Opens route ('@' :: t) x u y ∧ Visits route (pos + x.size) u n rest) ↔
      route.arguments = true ∧ ∃ x ∈ located (pos + p.head.size + 2) (arguments p.body),
        Visits route x.1 x.2 n rest := by
    have hx (as : List Text) : pos + Text.size ('@' :: p.head ++ '{' :: argumentsBefore as) =
        pos + p.head.size + 2 + Text.size (argumentsBefore as) := by
      rw [← size_before_body (a := '@') (b := '{') rfl rfl pos p.head, Nat.add_assoc,
        ← Text.size_append]
      simp
    constructor
    · rintro ⟨x, u, y, hopens, hv⟩
      obtain ⟨harguments, as, bs, has, rfl, rfl⟩ := (opens_argument hp).1 hopens
      rw [hx] at hv
      exact ⟨harguments, (_, u), mem_located_iff.2 ⟨as, bs, has, rfl⟩, hv⟩
    · rintro ⟨harguments, x, hx', hv⟩
      obtain ⟨as, bs, has, hstart⟩ := mem_located_iff.1 hx'
      rw [hstart, ← hx] at hv
      exact ⟨_, x.2, _, .argument hp harguments has, hv⟩
  rw [visits_iff, hargs]
  simp only [steps_block hc hp, and_assoc, exists_and_left, exists_eq_left, hs]

/-- A traversal ends at a malformed directive. -/
theorem visits_broken (h : Broken (c :: t) fault) :
    Visits route pos (c :: t) n rest ↔ n = pos ∧ rest = c :: t := by
  have hsteps (s u : Text) : ¬Steps (c :: t) s u := by
    intro hs
    cases hs with
    | literal hc => exact hc (List.mem_append_left ['$'] h.mem)
    | value => exact absurd h.mem (by decide)
    | span hp => cases (bracketed_eq_error_iff.2 h).symm.trans hp
    | block hc hp => cases ((braced_eq_error_iff hc).2 h).symm.trans hp
  have hopens (x u y : Text) : ¬Opens route (c :: t) x u y := by
    intro ho
    cases ho with
    | span hp => cases (bracketed_eq_error_iff.2 h).symm.trans hp
    | condition hp | argument hp =>
      cases ((braced_eq_error_iff (by decide)).2 h).symm.trans hp
  rw [visits_iff]
  simp [hsteps, hopens]

end Equations

end Listing.Template
