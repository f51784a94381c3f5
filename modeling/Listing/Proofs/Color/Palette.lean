import Mathlib.Data.List.Nodup
import Listing.Proofs.Outcome
import Listing.Color.Palette

namespace Listing

namespace Dict

variable {α : Type}

theorem isSome_get?_insert {d : Dict α} {x : Text} (h : (d.get? x).isSome) (k : Text) (v : α) :
    ((d.insert k v).get? x).isSome := by
  rw [get?_insert]
  by_cases hx : x = k
  · rw [if_pos hx]
    rfl
  · rw [if_neg hx]
    exact h

theorem isSome_get?_union {d : Dict α} {x : Text} (h : (d.get? x).isSome) (e : Dict α) :
    ((d.union e).get? x).isSome := by
  unfold union
  generalize e.entries = es
  induction es generalizing d with
  | nil => exact h
  | cons e es ih => exact ih (isSome_get?_insert h e.1 e.2)

end Dict

namespace TerminalColor

theorem ofName?_name (k : TerminalColor) : ofName? k.name = some k := by cases k <;> rfl

theorem eq_of_agrees {j k : TerminalColor} {t : Text} (hj : Text.agrees j.name t)
    (hk : Text.agrees k.name t) : j = k := by
  have hnodup : (all.map fun k => k.name.map Char.toLower).Nodup := by decide
  have hsame : j.name.map Char.toLower = k.name.map Char.toLower :=
    (eq_of_beq hj).trans (eq_of_beq hk).symm
  exact List.inj_on_of_nodup_map hnodup (mem_all j) (mem_all k) hsame

theorem ofName?_eq_none_iff {t : Text} :
    ofName? t = none ↔ ∀ k : TerminalColor, ¬Text.agrees k.name t := by
  simp [ofName?, mem_all]

theorem agrees_of_ofName? {k : TerminalColor} {t : Text} (h : ofName? t = some k) :
    Text.agrees k.name t :=
  List.find?_some (p := fun k : TerminalColor => Text.agrees k.name t) h

theorem ofName?_eq_some_iff {k : TerminalColor} {t : Text} :
    ofName? t = some k ↔ Text.agrees k.name t := by
  constructor
  · exact agrees_of_ofName?
  · intro h
    obtain ⟨j, hj⟩ : ∃ j, ofName? t = some j := by
      rw [← Option.ne_none_iff_exists']
      exact fun hnone => ofName?_eq_none_iff.1 hnone k h
    rw [hj, eq_of_agrees (agrees_of_ofName? hj) h]

end TerminalColor

namespace Palette

variable {p : Palette} {x : Text}

theorem mem_names_iff : x ∈ p.names ↔ (p.get? x).isSome := Dict.mem_keys_iff

theorem mem_names (h : (p.get? x).isSome) : x ∈ p.names := mem_names_iff.2 h

theorem color?_of_get?_eq_none (h : p.get? x = none) : p.color? x = TerminalColor.ofName? x := by
  have hchain : p.chain x = .ends x := by simp [chain, follow, h]
  rw [color?, hchain]

theorem problem?_eq_none_iff : p.problem? x = none ↔ (p.color? x).isSome := by
  unfold problem? color?
  cases p.chain x with
  | ends y => simp [Option.isSome_iff_ne_none]
  | loops path => simp

theorem isSome_color?_of_check (hp : p.check = .ok ()) (hx : (p.get? x).isSome) :
    (p.color? x).isSome := by
  unfold check at hp
  cases hproblem : p.names.findSome? p.problem? with
  | some e => simp [hproblem] at hp
  | none => exact problem?_eq_none_iff.1 (List.findSome?_eq_none_iff.1 hproblem x (mem_names hx))

theorem isSome_color?_name (hp : p.check = .ok ()) (k : TerminalColor) :
    (p.color? k.name).isSome := by
  by_cases hk : (p.get? k.name).isSome
  · exact isSome_color?_of_check hp hk
  · rw [color?_of_get?_eq_none (by simpa using hk), TerminalColor.ofName?_name]
    rfl

end Palette

end Listing
