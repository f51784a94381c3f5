import Mathlib
import Listing.Proofs.Color.Chain
import Listing.Proofs.Text.Bytes

namespace Listing.Palette

variable {p : Palette} {x y name : Text} {n : Nat} {path before seen : List Text} {last : Text}

/-- Following aliases leads along different names and then back to one of them. -/
structure Circles (p : Palette) (before : List Text) (last : Text) : Prop where
  chain : (before ++ [last]).IsChain fun x y => p.get? x = some y
  nodup : before.Nodup
  mem : last ∈ before

theorem Leads.get?_eq_none (h : p.Leads n x y) : p.get? y = none := by
  induction h with
  | ends hx => exact hx
  | step _ _ ih => exact ih

theorem exists_target_of_isChain (h : (before ++ [last]).IsChain fun x y => p.get? x = some y) :
    ∀ x ∈ before, ∃ y ∈ before ++ [last], p.get? x = some y := by
  intro x hx
  obtain ⟨s, r, rfl⟩ := List.append_of_mem hx
  obtain ⟨y, ys, hy⟩ := List.exists_cons_of_ne_nil (List.concat_ne_nil last r)
  rw [List.append_assoc, List.cons_append, hy, List.isChain_append_cons_cons] at h
  refine ⟨y, ?_, h.2.1⟩
  rw [List.append_assoc, List.cons_append, hy]
  simp

theorem isSome_get?_of_isChain (h : (before ++ [last]).IsChain fun x y => p.get? x = some y) :
    ∀ x ∈ before, (p.get? x).isSome := by
  intro x hx
  obtain ⟨y, -, hy⟩ := exists_target_of_isChain h x hx
  rw [hy]
  rfl

theorem length_le_size_of_isChain (hnodup : before.Nodup)
    (h : (before ++ [last]).IsChain fun x y => p.get? x = some y) : before.length ≤ p.size :=
  length_le_size hnodup fun x hx => mem_names (isSome_get?_of_isChain h x hx)

theorem exists_circles_of_follow {fuel : Nat} (hnodup : seen.Nodup)
    (hchain : (seen ++ [x]).IsChain fun x y => p.get? x = some y)
    (hfuel : p.size < seen.length + fuel) (h : p.follow fuel seen x = .loops path) :
    ∃ before last, path = before ++ [last] ∧ p.Circles before last ∧ seen ++ [x] <+: path := by
  induction fuel generalizing seen x with
  | zero => exact absurd (length_le_size_of_isChain hnodup hchain) (Nat.not_le_of_lt hfuel)
  | succ fuel ih =>
    rw [follow] at h
    by_cases hmem : x ∈ seen
    · simp only [hmem, ↓reduceIte, Chain.loops.injEq] at h
      exact ⟨seen, x, h.symm, ⟨hchain, hnodup, hmem⟩, h ▸ List.prefix_refl _⟩
    · cases hx : p.get? x with
      | none => simp [hmem, hx] at h
      | some y =>
        simp only [hmem, hx, ↓reduceIte] at h
        have hnodup' : (seen ++ [x]).Nodup := by simpa using hnodup.concat hmem
        have hchain' : (seen ++ [x] ++ [y]).IsChain fun x y => p.get? x = some y := by
          rw [List.append_assoc, List.singleton_append, List.isChain_append_cons_cons]
          exact ⟨hchain, hx, List.isChain_singleton y⟩
        obtain ⟨before, last, hpath, hcircles, hprefix⟩ :=
          ih hnodup' hchain' (by rw [List.length_append, List.length_singleton]; omega) h
        exact ⟨before, last, hpath, hcircles, (List.prefix_append _ _).trans hprefix⟩

/-- With fuel for the rest of its way, a chain that comes back is followed until it does. -/
theorem Circles.follow_eq (h : p.Circles before last) {rest : List Text}
    (hpath : before ++ [last] = seen ++ x :: rest) {fuel : Nat} (hfuel : rest.length ≤ fuel) :
    p.follow fuel seen x = .loops (before ++ [last]) := by
  induction rest generalizing seen x fuel with
  | nil =>
    obtain ⟨rfl, hlast⟩ := List.append_inj' hpath rfl
    obtain rfl : last = x := by simpa using hlast
    cases fuel with
    | zero => rfl
    | succ fuel => rw [follow, if_pos h.mem]
  | cons y rest ih =>
    obtain ⟨fuel, rfl⟩ := Nat.exists_eq_add_one_of_ne_zero (Nat.ne_zero_of_lt hfuel)
    have hsplit : before = seen ++ x :: (y :: rest).dropLast := by
      have hdrop := congrArg List.dropLast hpath
      rwa [List.dropLast_concat, List.dropLast_append_of_ne_nil (List.cons_ne_nil _ _),
        List.dropLast_cons_of_ne_nil (List.cons_ne_nil _ _)] at hdrop
    have hnew : x ∉ seen := by
      have hnodup := h.nodup
      rw [hsplit] at hnodup
      exact fun hmem => List.disjoint_of_nodup_append hnodup hmem List.mem_cons_self
    have hx : p.get? x = some y := by
      have hchain := h.chain
      rw [hpath, List.isChain_append_cons_cons] at hchain
      exact hchain.2.1
    have hpath' : before ++ [last] = seen ++ [x] ++ y :: rest := by rw [hpath]; simp
    have hnext := ih hpath' (Nat.le_of_succ_le_succ hfuel)
    rw [follow, if_neg hnew, hx]
    exact hnext

theorem Circles.follow_eq_loops (h : p.Circles before last)
    (hhead : (before ++ [last]).head? = some x) {fuel : Nat} (hfuel : p.size < fuel) :
    p.follow fuel [] x = .loops (before ++ [last]) := by
  obtain ⟨rest, hrest⟩ := List.head?_eq_some_iff.1 hhead
  have hlength := length_le_size_of_isChain h.nodup h.chain
  have hsame := congrArg List.length hrest
  simp only [List.length_append, List.length_cons, List.length_nil] at hsame
  have hpath : before ++ [last] = [] ++ x :: rest := hrest
  exact h.follow_eq hpath (by omega)

theorem chain_eq_loops_iff :
    p.chain x = .loops path ↔
      ∃ before last, path = before ++ [last] ∧ p.Circles before last ∧ path.head? = some x := by
  constructor
  · intro h
    obtain ⟨before, last, hpath, hcircles, hprefix⟩ :=
      exists_circles_of_follow .nil (List.isChain_singleton x) (by simp) h
    obtain ⟨rest, hrest⟩ := hprefix
    exact ⟨before, last, hpath, hcircles, by rw [← hrest]; rfl⟩
  · rintro ⟨before, last, rfl, hcircles, hhead⟩
    exact hcircles.follow_eq_loops hhead (Nat.lt_succ_self _)

theorem problem?_eq_dangling_iff {target : Text} :
    p.problem? x = some (.dangling name target) ↔
      name = x ∧ (∃ n, p.Leads n x target) ∧ TerminalColor.ofName? target = none := by
  constructor
  · intro h
    unfold problem? at h
    split at h
    · next y hends =>
      split at h
      · cases h
      · next hy =>
        cases h
        exact ⟨rfl, chain_eq_ends_iff.1 hends, by simpa using hy⟩
    · cases h
  · rintro ⟨rfl, hlead, hnone⟩
    rw [problem?, chain_eq_ends_iff.2 hlead]
    simp [hnone]

theorem problem?_eq_cycle_iff :
    p.problem? x = some (.cycle path) ↔
      ∃ before last, path = before ++ [last] ∧ p.Circles before last ∧ path.head? = some x := by
  rw [← chain_eq_loops_iff]
  constructor
  · intro h
    unfold problem? at h
    split at h
    · split at h <;> cases h
    · next hloops =>
      cases h
      exact hloops
  · intro h
    rw [problem?, h]

theorem not_mem_before_iff {as bs : List Text} (h : p.names = as ++ name :: bs) (hx : x ∈ p.names) :
    x ∉ as ↔ x = name ∨ Text.utf8 name < Text.utf8 x := by
  have hsorted : p.names.Pairwise fun a b => Text.precedes a b = true := p.aliases.sorted_keys
  rw [h, List.pairwise_append, List.pairwise_cons] at hsorted
  obtain ⟨-, ⟨hafter, -⟩, hbefore⟩ := hsorted
  rw [h, List.mem_append, List.mem_cons] at hx
  rw [← Text.precedes_iff]
  constructor
  · intro has
    rcases hx with hx | hx | hx
    · exact absurd hx has
    · exact .inl hx
    · exact .inr (hafter x hx)
  · rintro hlater hmem
    have hlt := hbefore x hmem name List.mem_cons_self
    rcases hlater with rfl | hgt
    · exact Text.ne_of_precedes hlt rfl
    · rw [Text.precedes_asymm hlt] at hgt
      cases hgt

theorem check_eq_error_iff {e : AliasError} :
    p.check = .error e ↔ ∃ x ∈ p.names, p.problem? x = some e ∧
      ∀ y ∈ p.names, p.color? y = none → y = x ∨ Text.utf8 x < Text.utf8 y := by
  have herror : p.check = .error e ↔ p.names.findSome? p.problem? = some e := by
    rw [check]
    cases p.names.findSome? p.problem? <;> simp
  rw [herror, List.findSome?_eq_some_iff]
  constructor
  · rintro ⟨as, x, bs, hnames, hx, has⟩
    refine ⟨x, by rw [hnames]; simp, hx, fun y hy hnone => (not_mem_before_iff hnames hy).1 ?_⟩
    intro hmem
    have hcolor := problem?_eq_none_iff.1 (has y hmem)
    rw [hnone] at hcolor
    cases hcolor
  · rintro ⟨x, hx, hproblem, hfirst⟩
    obtain ⟨as, bs, hnames⟩ := List.append_of_mem hx
    refine ⟨as, x, bs, hnames, hproblem, fun y hmem => problem?_eq_none_iff.2 ?_⟩
    have hy : y ∈ p.names := by
      rw [hnames]
      exact List.mem_append_left _ hmem
    rw [Option.isSome_iff_ne_none]
    exact fun hnone => (not_mem_before_iff hnames hy).2 (hfirst y hy hnone) hmem

/-- The check reports the first alias that stands for no color: where its chain ends, which is at
neither an alias nor a color, or how the chain comes back. Such a path starts at the alias and goes
from each name to its target, and it has a name twice when it ends, and not before. -/
theorem check_reports_first (p : Palette) (e : AliasError) :
    p.check = .error e ↔
      ∃ x ∈ p.names, p.color? x = none ∧
        (∀ y ∈ p.names, p.color? y = none → y = x ∨ Text.utf8 x < Text.utf8 y) ∧
        match e with
        | .dangling name target =>
          name = x ∧ (∃ n, p.Leads n x target) ∧ p.get? target = none ∧
            ∀ k : TerminalColor, ¬Text.agrees k.name target
        | .cycle path =>
          path.head? = some x ∧ (path.IsChain fun y z => p.get? y = some z) ∧
            ∃ before last, path = before ++ [last] ∧ before.Nodup ∧ before.count last = 1 := by
  rw [check_eq_error_iff]
  refine exists_congr fun x => and_congr_right fun _ => ?_
  constructor
  · rintro ⟨hproblem, hfirst⟩
    refine ⟨?_, hfirst, ?_⟩
    · by_contra hcolor
      rw [← Ne, ← Option.isSome_iff_ne_none, ← problem?_eq_none_iff, hproblem] at hcolor
      cases hcolor
    · cases e with
      | dangling name target =>
        obtain ⟨hname, ⟨n, hlead⟩, hnone⟩ := problem?_eq_dangling_iff.1 hproblem
        exact ⟨hname, ⟨n, hlead⟩, hlead.get?_eq_none, TerminalColor.ofName?_eq_none_iff.1 hnone⟩
      | cycle path =>
        obtain ⟨before, last, rfl, hcircles, hhead⟩ := problem?_eq_cycle_iff.1 hproblem
        exact ⟨hhead, hcircles.chain, before, last, rfl, hcircles.nodup,
          List.count_eq_one_of_mem hcircles.nodup hcircles.mem⟩
  · rintro ⟨-, hfirst, hreport⟩
    refine ⟨?_, hfirst⟩
    cases e with
    | dangling name target =>
      obtain ⟨hname, hlead, -, hcolor⟩ := hreport
      exact problem?_eq_dangling_iff.2 ⟨hname, hlead, TerminalColor.ofName?_eq_none_iff.2 hcolor⟩
    | cycle path =>
      obtain ⟨hhead, hchain, before, last, rfl, hnodup, hcount⟩ := hreport
      have hmem : last ∈ before := List.count_pos_iff.1 (by omega)
      exact problem?_eq_cycle_iff.2 ⟨before, last, rfl, ⟨hchain, hnodup, hmem⟩, hhead⟩

example : (ofList [("b", "c"), ("a", "b"), ("c", "b")]).check =
    .error (.cycle ["a", "b", "c", "b"]) := by cbv

end Listing.Palette
