import Mathlib
import Listing.Proofs.Color.Reported

namespace Listing.Palette

open Relation

variable {p : Palette} {x y z : Text} {before path : List Text} {last : Text}

def Aims (p : Palette) (x y : Text) : Prop := p.get? x = some y

/-- Following aliases leads from one name to the other, or they are the same. -/
def Passes (p : Palette) : Text → Text → Prop := ReflTransGen p.Aims

/-- Following aliases leads from a name back to it. -/
def Circular (p : Palette) (x : Text) : Prop := TransGen p.Aims x x

theorem Aims.unique (h : p.Aims x y) (h' : p.Aims x z) : y = z :=
  Option.some.inj (h.symm.trans h')

theorem Circular.aims (h : p.Circular x) (hy : p.Aims x y) : p.Passes y x := by
  obtain ⟨z, hz, hback⟩ := TransGen.head'_iff.1 h
  rwa [hy.unique hz]

theorem Circular.of_aims (h : p.Circular x) (hy : p.Aims x y) : p.Circular y :=
  TransGen.tail' (h.aims hy) hy

theorem Circular.passes (h : p.Circular x) (hy : p.Passes x y) : p.Circular y ∧ p.Passes y x := by
  induction hy with
  | refl => exact ⟨h, .refl⟩
  | tail _ hz ih => exact ⟨ih.1.of_aims hz, (ih.1.aims hz).trans ih.2⟩

theorem passes_of_isChain (h : (x :: path).IsChain p.Aims) : ∀ y ∈ x :: path, p.Passes x y :=
  h.induction (p.Passes x) _ (fun _ _ hz hy => hy.tail hz) fun _ => .refl

theorem circular_of_isChain (h : (x :: path ++ [x]).IsChain p.Aims) : p.Circular x := by
  obtain ⟨y, ys, hy⟩ := List.exists_cons_of_ne_nil (List.concat_ne_nil x path)
  rw [List.cons_append, hy, List.isChain_cons_cons] at h
  have hx : x ∈ y :: ys := by
    rw [← hy]
    exact List.mem_concat_self
  exact TransGen.head' h.1 (passes_of_isChain h.2 x hx)

theorem Passes.mem {xs : List Text} (h : p.Passes x y)
    (hxs : ∀ x ∈ xs, ∀ y, p.Aims x y → y ∈ xs) (hx : x ∈ xs) : y ∈ xs := by
  induction h with
  | refl => exact hx
  | tail _ hz ih => exact hxs _ ih _ hz

theorem mem_of_passes (h : (x :: path ++ [x]).IsChain p.Aims) (hy : p.Passes x y) :
    y ∈ x :: path := by
  refine hy.mem (fun z hz w hw => ?_) List.mem_cons_self
  obtain ⟨w', hmem, hw'⟩ := exists_target_of_isChain h z hz
  rw [hw.unique hw']
  rcases List.mem_append.1 hmem with hmem | hmem
  · exact hmem
  · exact List.mem_singleton.1 hmem ▸ List.mem_cons_self

/-- A chain that comes back has a way to a loop and goes round it once. -/
theorem Circles.exists_loop (h : p.Circles before last) :
    ∃ way rest, before = way ++ last :: rest ∧
      (∀ x ∈ last :: rest, p.Circular x) ∧ ∀ x ∈ way, ¬p.Circular x := by
  obtain ⟨way, rest, rfl⟩ := List.append_of_mem h.mem
  have hchain : (way ++ (last :: rest ++ [last])).IsChain p.Aims := by
    rw [← List.append_assoc]
    exact h.chain
  have hloop := hchain.right_of_append
  have hlast := circular_of_isChain hloop
  refine ⟨way, rest, rfl, fun x hx => ?_, fun x hx hcircular => ?_⟩
  · exact (hlast.passes (passes_of_isChain hloop x (List.mem_append_left [last] hx))).1
  · obtain ⟨s, r, rfl⟩ := List.append_of_mem hx
    have hway : (x :: (r ++ (last :: rest ++ [last]))).IsChain p.Aims := by
      rw [List.append_assoc] at hchain
      exact hchain.right_of_append
    have hpasses : p.Passes x last := passes_of_isChain hway last (by simp)
    -- From a name on a loop there would be a way back to it, which does not leave the loop.
    have hmem : x ∈ last :: rest := mem_of_passes hloop (hcircular.passes hpasses).2
    exact List.disjoint_of_nodup_append h.nodup hx hmem

/-- The path that is reported of an alias ends with a loop. It starts where it ends exactly when the
alias is on this loop. -/
theorem path_closed_iff_circular (h : p.check = .error (.cycle path)) :
    2 ≤ path.length ∧ path.IsChain p.Aims ∧
    (path.head? = path.getLast? ↔ ∃ x, path.head? = some x ∧ p.Circular x) ∧
    ∃ way loop, path = way ++ loop ∧ 2 ≤ loop.length ∧ loop.head? = loop.getLast? ∧
      (∀ x ∈ loop, p.Circular x) ∧ ∀ x ∈ way, ¬p.Circular x := by
  obtain ⟨_, -, hproblem, -⟩ := check_eq_error_iff.1 h
  obtain ⟨before, last, rfl, hcircles, -⟩ := problem?_eq_cycle_iff.1 hproblem
  obtain ⟨way, rest, rfl, hloop, hway⟩ := hcircles.exists_loop
  have hlast : p.Circular last := hloop last List.mem_cons_self
  refine ⟨by simp; omega, hcircles.chain, ?_, way, last :: rest ++ [last], by simp, by simp,
    List.getLast?_concat.symm, ?_, hway⟩
  · rw [List.getLast?_concat]
    constructor
    · exact fun hhead => ⟨last, hhead, hlast⟩
    · rintro ⟨x, hhead, hx⟩
      cases way with
      | nil => rfl
      | cons w way =>
        obtain rfl : w = x := by simpa using hhead
        exact absurd hx (hway w List.mem_cons_self)
  · intro x hx
    rcases List.mem_append.1 hx with hx | hx
    · exact hloop x hx
    · rwa [List.mem_singleton.1 hx]

def entered : Palette := ofList [("b", "c"), ("a", "b"), ("c", "b")]

theorem path_closed_iff_circular_entered :
    entered.check = .error (.cycle ["a", "b", "c", "b"]) ∧ ¬entered.Circular "a" ∧
      ∃ way loop, (["a", "b", "c", "b"] : List Text) = way ++ loop ∧ 2 ≤ loop.length ∧
        loop.head? = loop.getLast? ∧ (∀ x ∈ loop, entered.Circular x) ∧
        ∀ x ∈ way, ¬entered.Circular x := by
  have hcheck : entered.check = .error (.cycle ["a", "b", "c", "b"]) := by cbv
  obtain ⟨-, -, hclosed, hloop⟩ := path_closed_iff_circular hcheck
  refine ⟨hcheck, fun hcircular => ?_, hloop⟩
  exact absurd (hclosed.2 ⟨_, rfl, hcircular⟩) (by decide)

/-- A path that is reported need not lead back to where it starts. -/
theorem path_into_loop_open :
    entered.check = .error (.cycle ["a", "b", "c", "b"]) ∧
      (["a", "b", "c", "b"] : List Text).head? ≠ (["a", "b", "c", "b"] : List Text).getLast? :=
  ⟨by cbv, by decide⟩

end Listing.Palette
