import Mathlib.Data.List.Induction
import Listing.Proofs.Color.Chain

namespace Listing

namespace Dict

variable {α : Type} {es : List (Text × α)} {k x : Text} {v : α}

def insertAll (d : Dict α) (es : List (Text × α)) : Dict α :=
  es.foldl (fun d e => d.insert e.1 e.2) d

theorem get?_insertAll_of_not_mem (d : Dict α) (h : x ∉ es.map Prod.fst) :
    (d.insertAll es).get? x = d.get? x := by
  induction es generalizing d with
  | nil => rfl
  | cons e es ih =>
    obtain ⟨hx, hes⟩ := List.ne_and_not_mem_of_not_mem_cons h
    exact (ih (d.insert e.1 e.2) hes).trans (get?_insert_of_ne hx d e.2)

theorem get?_insertAll_of_mem (d : Dict α) (hnodup : (es.map Prod.fst).Nodup) (h : (k, v) ∈ es) :
    (d.insertAll es).get? k = some v := by
  induction es generalizing d with
  | nil => cases h
  | cons e es ih =>
    obtain ⟨hnew, hnodup⟩ := List.nodup_cons.1 hnodup
    rcases List.mem_cons.1 h with rfl | h
    · exact (get?_insertAll_of_not_mem _ hnew).trans (get?_insert_self d k v)
    · exact ih (d.insert e.1 e.2) hnodup h

theorem nodup_keys (d : Dict α) : (d.entries.map Prod.fst).Nodup :=
  d.sorted_keys.imp fun h => Text.ne_of_precedes h

theorem get?_eq_none_iff {d : Dict α} : d.get? x = none ↔ x ∉ d.entries.map Prod.fst := by
  rw [← Option.not_isSome_iff_eq_none, ← mem_keys_iff, keys]

theorem get?_union (d e : Dict α) (x : Text) : (d.union e).get? x = (e.get? x).or (d.get? x) := by
  change (d.insertAll e.entries).get? x = _
  cases hx : e.get? x with
  | none => exact get?_insertAll_of_not_mem d (get?_eq_none_iff.1 hx)
  | some v => exact get?_insertAll_of_mem d e.nodup_keys (get?_eq_some_iff.1 hx)

end Dict

namespace Palette

variable {p q : Palette} {x : Text}

def insertAll (p : Palette) (es : List (Text × Text)) : Palette := ⟨p.aliases.insertAll es⟩

theorem insertAll_concat (p : Palette) (es : List (Text × Text)) (e : Text × Text) :
    p.insertAll (es ++ [e]) = (p.insertAll es).insert e.1 e.2 := by
  simp [insertAll, Dict.insertAll, insert]

theorem get?_overlay (p q : Palette) (x : Text) :
    (p.overlay q).get? x = (q.get? x).or (p.get? x) :=
  Dict.get?_union p.aliases q.aliases x

theorem insertAll_eq_overlay {es : List (Text × Text)} (h : es.Perm q.aliases.entries) :
    p.insertAll es = p.overlay q := by
  have hkeys := h.map Prod.fst
  have hnodup : (es.map Prod.fst).Nodup := hkeys.nodup_iff.2 q.aliases.nodup_keys
  refine congrArg Palette.mk (Dict.ext fun x => ?_)
  rw [Dict.get?_union]
  cases hx : q.aliases.get? x with
  | none =>
    rw [Dict.get?_eq_none_iff, ← hkeys.mem_iff] at hx
    exact Dict.get?_insertAll_of_not_mem _ hx
  | some v =>
    rw [Dict.get?_eq_some_iff, ← h.mem_iff] at hx
    exact Dict.get?_insertAll_of_mem _ hnodup hx

/-- A chain is already there when the aliases are set that are as near to its end as it starts. -/
theorem Leads.insertAll {es : List (Text × Text)} {n : Nat} {y : Text}
    (h : (p.overlay q).Leads n x y) (hes : es ⊆ q.aliases.entries)
    (hnodup : (es.map Prod.fst).Nodup)
    (hnear : ∀ e ∈ q.aliases.entries, ∀ m ≤ n, (p.overlay q).Leads m e.1 y → e ∈ es) :
    (p.insertAll es).Leads n x y := by
  apply h.congr
  intro m z hm hz
  rw [get?_overlay]
  cases hq : q.get? z with
  | none =>
    have hnot : z ∉ es.map Prod.fst := fun hmem =>
      Dict.get?_eq_none_iff.1 hq (List.map_subset Prod.fst hes hmem)
    exact Dict.get?_insertAll_of_not_mem _ hnot
  | some v =>
    have hmem : (z, v) ∈ es := hnear (z, v) (Dict.get?_eq_some_iff.1 hq) m hm hz
    exact Dict.get?_insertAll_of_mem _ hnodup hmem

theorem check_insertAll_concat {es : List (Text × Text)} {e : Text × Text} {n : Nat} {y : Text}
    (hcheck : (p.insertAll es).check = .ok ()) (hes : es ++ [e] ⊆ q.aliases.entries)
    (hnodup : ((es ++ [e]).map Prod.fst).Nodup) (h : (p.overlay q).Leads n e.1 y)
    (hy : (TerminalColor.ofName? y).isSome)
    (hnear : ∀ a ∈ q.aliases.entries, ∀ m < n, (p.overlay q).Leads m a.1 y → a ∈ es) :
    (p.insertAll (es ++ [e])).check = .ok () := by
  have htarget : (p.overlay q).get? e.1 = some e.2 := by
    have hq : q.get? e.1 = some e.2 := Dict.get?_eq_some_iff.2 (hes (by simp))
    rw [get?_overlay, hq]
    rfl
  rw [insertAll_concat, check_insert_iff hcheck, ← insertAll_concat]
  cases h with
  | ends hnone => simp [htarget] at hnone
  | step hsome hrest =>
    obtain rfl := Option.some.inj (htarget.symm.trans hsome)
    have hnow := hrest.insertAll hes hnodup fun a ha m hm hlead =>
      List.mem_append_left [e] (hnear a ha m (Nat.lt_succ_of_le hm) hlead)
    rw [hnow.color?_eq]
    exact hy

theorem exists_rank (h : p.check = .ok ()) :
    ∃ (rank : Text → Nat) (last : Text → Text), ∀ x, (p.get? x).isSome →
      p.Leads (rank x) x (last x) ∧ (TerminalColor.ofName? (last x)).isSome := by
  have hleads : ∀ x, (p.get? x).isSome →
      ∃ n y, p.Leads n x y ∧ (TerminalColor.ofName? y).isSome := by
    intro x hx
    obtain ⟨k, hk⟩ := Option.isSome_iff_exists.1 (check_eq_ok_iff.1 h x hx)
    obtain ⟨n, y, hlead, hy⟩ := color?_eq_some_iff.1 hk
    exact ⟨n, y, hlead, by rw [hy]; rfl⟩
  choose! rank last h using hleads
  exact ⟨rank, last, h⟩

theorem exists_sorted {α : Type} (measure : α → Nat) (l : List α) :
    ∃ order : List α, order.Perm l ∧ order.Pairwise fun a b => measure a ≤ measure b := by
  refine ⟨l.mergeSort fun a b => decide (measure a ≤ measure b), List.mergeSort_perm _ _, ?_⟩
  refine (List.pairwise_mergeSort ?_ ?_ l).imp fun h => of_decide_eq_true h
  · intro a b c hab hbc
    simp only [decide_eq_true_eq] at hab hbc ⊢
    omega
  · intro a b
    simp only [Bool.or_eq_true, decide_eq_true_eq]
    omega

/-- Each alias has its place after those that its target needs: they are sorted by the lengths of
their chains. -/
theorem exists_order (hp : p.check = .ok ()) (h : (p.overlay q).check = .ok ()) :
    ∃ order : List (Text × Text), order.Perm q.aliases.entries ∧
      ∀ es, es <+: order → (p.insertAll es).check = .ok () := by
  obtain ⟨rank, last, hrank⟩ := exists_rank h
  obtain ⟨order, hperm, hsorted⟩ := exists_sorted (fun e => rank e.1) q.aliases.entries
  have hrank : ∀ e ∈ q.aliases.entries, (p.overlay q).Leads (rank e.1) e.1 (last e.1) ∧
      (TerminalColor.ofName? (last e.1)).isSome := by
    intro e he
    have hq : q.get? e.1 = some e.2 := Dict.get?_eq_some_iff.2 he
    apply hrank
    rw [get?_overlay, hq]
    rfl
  have hnodup : (order.map Prod.fst).Nodup :=
    (hperm.map Prod.fst).nodup_iff.2 q.aliases.nodup_keys
  refine ⟨order, hperm, fun es hes => ?_⟩
  induction es using List.reverseRecOn with
  | nil => exact hp
  | append_singleton es e ih =>
    obtain ⟨later, rfl⟩ := hes
    have hmem : e ∈ q.aliases.entries := hperm.mem_iff.1 (by simp)
    have hcheck : (p.insertAll es).check = .ok () := ih (by simp)
    have hsub : es ++ [e] ⊆ q.aliases.entries := fun a ha =>
      hperm.mem_iff.1 (List.mem_append_left later ha)
    rw [List.map_append] at hnodup
    refine check_insertAll_concat hcheck hsub (List.nodup_append.1 hnodup).1 (hrank e hmem).1
      (hrank e hmem).2 fun a ha m hm hlead => ?_
    have hlater : ∀ a ∈ e :: later, rank e.1 ≤ rank a.1 := by
      rw [List.append_assoc] at hsorted
      have htail := (List.pairwise_append.1 hsorted).2.1
      intro a ha
      rcases List.mem_cons.1 ha with rfl | ha
      · exact Nat.le_refl _
      · exact (List.pairwise_cons.1 htail).1 a ha
    have hsame := (hlead.unique (hrank a ha).1).1
    rw [← hperm.mem_iff, List.append_assoc, List.mem_append] at ha
    rcases ha with ha | ha
    · exact ha
    · have := hlater a ha
      omega

end Palette

end Listing
