import Mathlib
import Listing.Proofs.Color.Overlay
import Listing.Proofs.Text.Bytes

namespace Listing

inductive Making
  | insert (name target : Text)
  | overlay (q : Palette)
  | collect (aliases : List (Text × Text))
  | reread

namespace Making

/-- The palette after a step. To collect aliases is to start anew, and to read what is written as
data could fail. -/
def after? (p : Palette) : Making → Option Palette
  | insert name target => some (p.insert name target)
  | overlay q => some (p.overlay q)
  | collect aliases => some (.ofList aliases)
  | reread => Palette.ofData? p.toData

/-- The targets that have been set after a step, in this order. In a palette that starts anew none
have been set before. -/
def record (history : List (Text × Text)) : Making → List (Text × Text)
  | insert name target => history ++ [(name, target)]
  | overlay q => history ++ q.aliases.entries
  | collect aliases => aliases
  | reread => history

def history (steps : List Making) : List (Text × Text) := steps.foldl record []

end Making

open Making

namespace Palette

variable {p q : Palette} {es : List (Text × Text)} {x : Text}

def made? (steps : List Making) : Option Palette := steps.foldlM after? empty

def lastTarget (es : List (Text × Text)) (x : Text) : Option Text := es.reverse.lookup x

/-- The palette has the targets that were set last. -/
def Holds (p : Palette) (es : List (Text × Text)) : Prop := ∀ x, p.get? x = lastTarget es x

theorem ext_get? (h : ∀ x, p.get? x = q.get? x) : p = q := congrArg Palette.mk (Dict.ext h)

theorem lastTarget_append (es fs : List (Text × Text)) (x : Text) :
    lastTarget (es ++ fs) x = (lastTarget fs x).or (lastTarget es x) := by
  rw [lastTarget, List.reverse_append, List.lookup_append]
  rfl

theorem lastTarget_cons (e : Text × Text) (es : List (Text × Text)) (x : Text) :
    lastTarget (e :: es) x = (lastTarget es x).or (if x = e.1 then some e.2 else none) := by
  have hsingle : lastTarget [e] x = if x = e.1 then some e.2 else none := by
    by_cases hx : x = e.1
    · simp [lastTarget, List.lookup, hx]
    · simp [lastTarget, List.lookup, hx, beq_false_of_ne hx]
  rw [← hsingle, ← lastTarget_append, List.singleton_append]

theorem isSome_lastTarget_iff : (lastTarget es x).isSome ↔ x ∈ es.map Prod.fst := by
  rw [Option.isSome_iff_ne_none, Ne, lastTarget, List.lookup_eq_none_iff]
  simp

theorem get?_insertAll (p : Palette) (es : List (Text × Text)) (x : Text) :
    (p.insertAll es).get? x = (lastTarget es x).or (p.get? x) := by
  induction es generalizing p with
  | nil => rfl
  | cons e es ih =>
    have hfirst : (p.insert e.1 e.2).get? x =
        (if x = e.1 then some e.2 else none).or (p.get? x) := by
      rw [get?_insert]
      split <;> rfl
    calc (p.insertAll (e :: es)).get? x = ((p.insert e.1 e.2).insertAll es).get? x := rfl
      _ = (lastTarget (e :: es) x).or (p.get? x) := by
        rw [ih, hfirst, lastTarget_cons, Option.or_assoc]

theorem holds_empty : empty.Holds [] := fun _ => rfl

theorem Holds.insertAll (h : p.Holds es) (fs : List (Text × Text)) :
    (p.insertAll fs).Holds (es ++ fs) := by
  intro x
  rw [get?_insertAll, h x, lastTarget_append]

theorem mapM_text? (es : List (Text × Text)) :
    (es.map fun e => (e.1, Data.text e.2)).mapM (fun e : Text × Data => (e.1, ·) <$> e.2.text?) =
      some es := by
  induction es with
  | nil => rfl
  | cons e es ih =>
    rw [List.map_cons, List.mapM_cons, ih]
    rfl

theorem ofData?_toData (p : Palette) : ofData? p.toData = some p := by
  have hsame : ofList p.aliases.entries = p := by
    refine ext_get? fun x => ?_
    exact (get?_overlay empty p x).trans Option.or_none
  have hread : ofData? p.toData = (p.aliases.entries.map fun e => (e.1, Data.text e.2)).mapM
      (fun e : Text × Data => (e.1, ·) <$> e.2.text?) >>= fun es => some (ofList es) := rfl
  rw [hread, mapM_text?]
  exact congrArg some hsame

/-- No step fails, and the palette goes on to have the last targets. -/
theorem Holds.after? (h : p.Holds es) (step : Making) :
    ∃ q, step.after? p = some q ∧ q.Holds (step.record es) := by
  cases step with
  | insert name target => exact ⟨_, rfl, h.insertAll [(name, target)]⟩
  | overlay q => exact ⟨_, rfl, h.insertAll q.aliases.entries⟩
  | collect aliases => exact ⟨_, rfl, holds_empty.insertAll aliases⟩
  | reread => exact ⟨p, p.ofData?_toData, h⟩

theorem Holds.foldlM (h : p.Holds es) (steps : List Making) :
    ∃ q, steps.foldlM Making.after? p = some q ∧ q.Holds (steps.foldl record es) := by
  induction steps generalizing p es with
  | nil => exact ⟨p, rfl, h⟩
  | cons step steps ih =>
    obtain ⟨q, hq, hholds⟩ := h.after? step
    obtain ⟨r, hr, hrest⟩ := ih hholds
    exact ⟨r, by rw [List.foldlM_cons, hq]; exact hr, hrest⟩

theorem exists_made (steps : List Making) : ∃ p, made? steps = some p ∧ p.Holds (history steps) :=
  holds_empty.foldlM steps

theorem Holds.size_eq (h : p.Holds es) : p.size = (es.map Prod.fst).toFinset.card := by
  have hnames : p.names.toFinset = (es.map Prod.fst).toFinset := by
    ext x
    rw [List.mem_toFinset, List.mem_toFinset, mem_names_iff, h x, isSome_lastTarget_iff]
  have hnodup : p.names.Nodup := p.aliases.nodup_keys
  rw [← hnames, List.toFinset_card_of_nodup hnodup, names, Dict.keys, List.length_map]
  rfl

/-- However it is made, a palette is the map of the targets that were set last, sorted by name. -/
theorem made_of_last_targets (steps : List Making) :
    ∃ p, made? steps = some p ∧
      (p.names.Pairwise fun x y => x.utf8 < y.utf8) ∧
      p.size = ((history steps).map Prod.fst).toFinset.card ∧
      (∀ x, p.get? x = lastTarget (history steps) x) ∧
      (∀ q : Palette, p = q ↔ ∀ x, p.get? x = q.get? x) ∧
      ofData? p.toData = some p ∧
      ∀ others q, made? others = some q →
        (∀ x, lastTarget (history steps) x = lastTarget (history others) x) →
        p = q ∧ (∀ x, p.color? x = q.color? x) ∧ p.check = q.check := by
  obtain ⟨p, hp, hholds⟩ := exists_made steps
  refine ⟨p, hp, p.aliases.sorted_utf8_keys, hholds.size_eq, hholds, fun q => ⟨?_, ext_get?⟩,
    p.ofData?_toData, fun others q hq hsame => ?_⟩
  · rintro rfl x
    rfl
  · obtain ⟨q', hq', hholds'⟩ := exists_made others
    obtain rfl := Option.some.inj (hq.symm.trans hq')
    have heq : p = q := ext_get? fun x => by rw [hholds x, hsame x, hholds' x]
    exact ⟨heq, fun x => by rw [heq], by rw [heq]⟩

def mixed : List Making :=
  [.insert "lost" "a", .collect [("b", "Red"), ("é", "b"), ("b", "é")],
    .overlay (ofList [("é", "Blue"), ("Red", "b")]), .reread, .insert "b" "RED"]

def remixed : List Making :=
  [.overlay (ofList [("b", "RED"), ("Red", "Red")]), .insert "é" "Blue", .insert "Red" "b"]

theorem made_of_last_targets_mixed :
    made? remixed = some (ofList [("é", "Blue"), ("b", "RED"), ("Red", "b")]) ∧
    (∀ x, lastTarget (history mixed) x = lastTarget (history remixed) x) ∧
    made? mixed = some (ofList [("é", "Blue"), ("b", "RED"), ("Red", "b")]) := by
  have hremixed : made? remixed = some (ofList [("é", "Blue"), ("b", "RED"), ("Red", "b")]) := by
    cbv
  have hmixed : history mixed = ([("b", "Red"), ("é", "b"), ("b", "é"), ("Red", "b"),
    ("é", "Blue"), ("b", "RED")] : List (Text × Text)) := by cbv
  have hothers : history remixed = ([("Red", "Red"), ("b", "RED"), ("é", "Blue"),
    ("Red", "b")] : List (Text × Text)) := by cbv
  have hlast : ∀ x, lastTarget (history mixed) x = lastTarget (history remixed) x := by
    intro x
    by_cases hb : x = "b"
    · subst hb
      cbv
    by_cases he : x = "é"
    · subst he
      cbv
    by_cases hr : x = "Red"
    · subst hr
      cbv
    · rw [hmixed, hothers]
      simp only [lastTarget_cons, hb, he, hr, ↓reduceIte, Option.or_none]
  obtain ⟨p, hp, -, -, -, -, -, hsame⟩ := made_of_last_targets mixed
  obtain ⟨rfl, -⟩ := hsame remixed _ hremixed hlast
  exact ⟨hremixed, hlast, hp⟩

end Palette

end Listing
