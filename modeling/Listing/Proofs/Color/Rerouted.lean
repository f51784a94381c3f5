import Mathlib
import Listing.Proofs.Color.Circling

namespace Listing.Palette

open Relation

variable {p q : Palette} {x : Text}

theorem follow_congr (h : ∀ y, p.Passes x y → q.get? y = p.get? y) (fuel : Nat)
    (seen : List Text) : q.follow fuel seen x = p.follow fuel seen x := by
  induction fuel generalizing seen x with
  | zero => rfl
  | succ fuel ih =>
    rw [follow, follow, h x .refl]
    by_cases hmem : x ∈ seen
    · rw [if_pos hmem, if_pos hmem]
    · rw [if_neg hmem, if_neg hmem]
      cases hx : p.get? x with
      | none => rfl
      | some z => exact ih (fun y hy => h y (.head hx hy)) (seen ++ [x])

/-- More steps than there are aliases and one make no difference. -/
theorem follow_eq_chain {fuel : Nat} (h : p.size < fuel) : p.follow fuel [] x = p.chain x := by
  cases hchain : p.chain x with
  | ends y =>
    obtain ⟨n, hlead⟩ := chain_eq_ends_iff.1 hchain
    exact hlead.follow_eq (Nat.lt_of_le_of_lt hlead.le_size h) nofun
  | loops path =>
    obtain ⟨before, last, rfl, hcircles, hhead⟩ := chain_eq_loops_iff.1 hchain
    exact hcircles.follow_eq_loops hhead h

theorem chain_congr (h : ∀ y, p.Passes x y → q.get? y = p.get? y) : q.chain x = p.chain x := by
  calc q.chain x = q.follow (p.size + q.size + 1) [] x := (follow_eq_chain (by omega)).symm
    _ = p.follow (p.size + q.size + 1) [] x := follow_congr h _ _
    _ = p.chain x := follow_eq_chain (by omega)

theorem chain_insert {name : Text} (h : ¬p.Passes x name) (target : Text) :
    (p.insert name target).chain x = p.chain x := by
  refine chain_congr fun y hy => ?_
  have hne : y ≠ name := by
    rintro rfl
    exact h hy
  rw [get?_insert, if_neg hne]

/-- The names whose chains do not pass an alias keep their colors when it is changed. If all aliases
stood for colors, all still do exactly when the new target does. -/
theorem insert_reroutes (p : Palette) (name target : Text) :
    (∀ x, ¬p.Passes x name → (p.insert name target).chain x = p.chain x ∧
      (p.insert name target).color? x = p.color? x) ∧
    ((∀ x ∈ p.names, (p.color? x).isSome) →
      ((∀ x ∈ (p.insert name target).names, ((p.insert name target).color? x).isSome) ↔
        ((p.insert name target).color? target).isSome) ∧
      ((p.insert name target).check = .ok () ↔ ((p.insert name target).color? target).isSome)) := by
  refine ⟨fun x hx => ?_, fun hp => ?_⟩
  · have hchain := chain_insert hx target
    exact ⟨hchain, by rw [color?, color?, hchain]⟩
  · have hcheck : p.check = .ok () := check_eq_ok_iff.2 fun x hx => hp x (mem_names hx)
    have hinsert := check_insert_iff hcheck name target
    refine ⟨?_, hinsert⟩
    rw [← hinsert, check_eq_ok_iff]
    simp only [mem_names_iff]

def accented : Palette := ofList [("Open", "Accent"), ("Accent", "Blue"), ("Closed", "Red")]

theorem insert_reroutes_red :
    ¬accented.Passes "Open" "Red" ∧ (∀ x ∈ accented.names, (accented.color? x).isSome) ∧
    (accented.insert "Red" "Open").chain "Open" = accented.chain "Open" ∧
    (accented.insert "Red" "Open").color? "Open" = accented.color? "Open" ∧
    (∀ x ∈ (accented.insert "Red" "Open").names,
      ((accented.insert "Red" "Open").color? x).isSome) ∧
    (accented.insert "Red" "Open").check = .ok () ∧
    (accented.insert "Red" "Open").color? "Closed" = some .blue := by
  obtain ⟨hframe, horder⟩ := insert_reroutes accented "Red" "Open"
  have hpasses : ¬accented.Passes "Open" "Red" := by
    intro h
    have htargets : ∀ x ∈ (["Open", "Accent", "Blue"] : List Text), ∀ y ∈ accented.get? x,
        y ∈ (["Open", "Accent", "Blue"] : List Text) := by decide +kernel
    exact absurd (h.mem htargets List.mem_cons_self) (by decide)
  have hcolors : ∀ x ∈ accented.names, (accented.color? x).isSome := by decide +kernel
  have htarget : ((accented.insert "Red" "Open").color? "Open").isSome := by decide +kernel
  obtain ⟨hchain, hcolor⟩ := hframe _ hpasses
  obtain ⟨hall, hcheck⟩ := horder hcolors
  exact ⟨hpasses, hcolors, hchain, hcolor, hall.2 htarget, hcheck.2 htarget, by decide +kernel⟩

end Listing.Palette
