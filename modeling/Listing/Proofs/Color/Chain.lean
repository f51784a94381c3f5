import Mathlib.Data.List.Perm.Subperm
import Listing.Proofs.Color.Palette

namespace Listing.Palette

/-- Following `n` aliases leads from a name to another, which is no alias. -/
inductive Leads (p : Palette) : Nat → Text → Text → Prop
  | ends {x : Text} (h : p.get? x = none) : Leads p 0 x x
  | step {x z y : Text} {n : Nat} (h : p.get? x = some z) (hz : Leads p n z y) :
      Leads p (n + 1) x y

variable {p q : Palette} {x y z : Text} {m n : Nat}

theorem Leads.unique (h : p.Leads n x y) (h' : p.Leads m x z) : n = m ∧ y = z := by
  induction h generalizing m with
  | ends hx =>
    cases h' with
    | ends _ => exact ⟨rfl, rfl⟩
    | step hx' _ => simp [hx] at hx'
  | step hx _ ih =>
    cases h' with
    | ends hx' => simp [hx'] at hx
    | step hx' hy' =>
      obtain rfl := Option.some.inj (hx.symm.trans hx')
      obtain ⟨rfl, rfl⟩ := ih hy'
      exact ⟨rfl, rfl⟩

theorem Leads.exists_names (h : p.Leads n x y) :
    ∃ xs : List Text, xs.length = n ∧ xs.Nodup ∧ ∀ z ∈ xs, z ∈ p.names ∧
      ∃ m, m ≤ n ∧ p.Leads m z y := by
  induction h with
  | ends _ => exact ⟨[], rfl, .nil, nofun⟩
  | @step x z y n hx hz ih =>
    obtain ⟨xs, hlen, hnodup, hxs⟩ := ih
    -- The new name is further from the end than all others, hence different from them.
    have hnew : x ∉ xs := by
      intro hmem
      obtain ⟨-, m, hm, hlead⟩ := hxs x hmem
      have := (hlead.unique (.step hx hz)).1
      omega
    refine ⟨x :: xs, by simp [hlen], List.nodup_cons.2 ⟨hnew, hnodup⟩, ?_⟩
    intro w hw
    rcases List.mem_cons.1 hw with rfl | hw
    · exact ⟨mem_names (by simp [hx]), n + 1, Nat.le_refl _, .step hx hz⟩
    · obtain ⟨hname, m, hm, hlead⟩ := hxs w hw
      exact ⟨hname, m, by omega, hlead⟩

theorem length_le_size {xs : List Text} (hnodup : xs.Nodup) (hxs : ∀ x ∈ xs, x ∈ p.names) :
    xs.length ≤ p.size := by
  have hlen : xs.length ≤ p.names.length := (hnodup.subperm hxs).length_le
  simpa [names, size, Dict.keys, Dict.size] using hlen

theorem Leads.le_size (h : p.Leads n x y) : n ≤ p.size := by
  obtain ⟨xs, rfl, hnodup, hxs⟩ := h.exists_names
  exact length_le_size hnodup fun z hz => (hxs z hz).1

theorem exists_leads_of_follow {fuel : Nat} {seen : List Text}
    (h : p.follow fuel seen x = .ends y) : ∃ n, p.Leads n x y := by
  induction fuel generalizing seen x with
  | zero => cases h
  | succ fuel ih =>
    rw [follow] at h
    split at h
    · cases h
    · cases hx : p.get? x with
      | none =>
        simp only [hx, Chain.ends.injEq] at h
        subst h
        exact ⟨0, .ends hx⟩
      | some z =>
        simp only [hx] at h
        obtain ⟨n, hn⟩ := ih h
        exact ⟨n + 1, .step hx hn⟩

/-- A chain is followed to its end when it is not longer than allowed, and when all names that were
seen before are further away from the end. -/
theorem Leads.follow_eq (h : p.Leads n x y) {fuel : Nat} (hfuel : n < fuel) {seen : List Text}
    (hseen : ∀ z ∈ seen, ∃ m, n < m ∧ p.Leads m z y) : p.follow fuel seen x = .ends y := by
  induction h generalizing fuel seen with
  | @ends x hx =>
    obtain ⟨fuel, rfl⟩ := Nat.exists_eq_add_one_of_ne_zero (Nat.ne_of_gt hfuel)
    have hnew : x ∉ seen := by
      intro hmem
      obtain ⟨m, hm, hlead⟩ := hseen x hmem
      have := (hlead.unique (.ends hx)).1
      omega
    simp [follow, hnew, hx]
  | @step x z y n hx hz ih =>
    obtain ⟨fuel, rfl⟩ := Nat.exists_eq_add_one_of_ne_zero (Nat.ne_zero_of_lt hfuel)
    have hlead : p.Leads (n + 1) x y := .step hx hz
    have hnew : x ∉ seen := by
      intro hmem
      obtain ⟨m, hm, hlead'⟩ := hseen x hmem
      have := (hlead'.unique hlead).1
      omega
    have hrest : p.follow fuel (seen ++ [x]) z = .ends y := by
      refine ih (by omega) fun w hw => ?_
      rcases List.mem_append.1 hw with hw | hw
      · obtain ⟨m, hm, hlead'⟩ := hseen w hw
        exact ⟨m, by omega, hlead'⟩
      · obtain rfl := List.mem_singleton.1 hw
        exact ⟨n + 1, by omega, hlead⟩
    simp [follow, hnew, hx, hrest]

theorem chain_eq_ends_iff : p.chain x = .ends y ↔ ∃ n, p.Leads n x y := by
  constructor
  · exact exists_leads_of_follow
  · rintro ⟨n, h⟩
    exact h.follow_eq (Nat.lt_succ_of_le h.le_size) nofun

theorem color?_eq_some_iff {k : TerminalColor} :
    p.color? x = some k ↔ ∃ n y, p.Leads n x y ∧ TerminalColor.ofName? y = some k := by
  constructor
  · intro h
    unfold color? at h
    split at h
    · next y hchain =>
      obtain ⟨n, hn⟩ := chain_eq_ends_iff.1 hchain
      exact ⟨n, y, hn, h⟩
    · cases h
  · rintro ⟨n, y, hn, hk⟩
    rw [color?, chain_eq_ends_iff.2 ⟨n, hn⟩]
    exact hk

theorem Leads.color?_eq (h : p.Leads n x y) : p.color? x = TerminalColor.ofName? y := by
  rw [color?, chain_eq_ends_iff.2 ⟨n, h⟩]

theorem isSome_color?_of_target (hx : p.get? x = some y) (hy : (p.color? y).isSome) :
    (p.color? x).isSome := by
  obtain ⟨k, hk⟩ := Option.isSome_iff_exists.1 hy
  obtain ⟨n, z, hlead, hz⟩ := color?_eq_some_iff.1 hk
  have h : p.color? x = some k := color?_eq_some_iff.2 ⟨n + 1, z, .step hx hlead, hz⟩
  rw [h]
  rfl

theorem check_eq_ok_iff :
    p.check = .ok () ↔ ∀ x, (p.get? x).isSome → (p.color? x).isSome := by
  constructor
  · exact fun h x hx => isSome_color?_of_check h hx
  · intro h
    have hproblem : p.names.findSome? p.problem? = none := by
      rw [List.findSome?_eq_none_iff]
      exact fun x hx => problem?_eq_none_iff.2 (h x (mem_names_iff.1 hx))
    rw [check, hproblem]

/-- A chain is the same in a palette that agrees on all names as near to the end as it starts. -/
theorem Leads.congr (h : p.Leads n x y)
    (hagree : ∀ m z, m ≤ n → p.Leads m z y → q.get? z = p.get? z) : q.Leads n x y := by
  induction h with
  | @ends x hx => exact .ends ((hagree 0 x (Nat.le_refl _) (.ends hx)).trans hx)
  | @step x z y n hx hz ih =>
    have hx' : q.get? x = some z := (hagree (n + 1) x (Nat.le_refl _) (.step hx hz)).trans hx
    exact .step hx' (ih fun m w hm hw => hagree m w (by omega) hw)

theorem get?_insert (p : Palette) (n t x : Text) :
    (p.insert n t).get? x = if x = n then some t else p.get? x :=
  Dict.get?_insert p.aliases n x t

theorem Leads.isSome_color?_insert {name target : Text} (h : p.Leads n x y)
    (hy : (TerminalColor.ofName? y).isSome)
    (hname : ((p.insert name target).color? name).isSome) :
    ((p.insert name target).color? x).isSome := by
  induction h with
  | @ends x hx =>
    by_cases hn : x = name
    · exact hn ▸ hname
    · have hx' : (p.insert name target).get? x = none := by simp [get?_insert, hn, hx]
      rwa [color?_of_get?_eq_none hx']
  | @step x z y n hx _ ih =>
    by_cases hn : x = name
    · exact hn ▸ hname
    · have hx' : (p.insert name target).get? x = some z := by simp [get?_insert, hn, hx]
      exact isSome_color?_of_target hx' (ih hy)

theorem check_insert_iff (hp : p.check = .ok ()) (name target : Text) :
    (p.insert name target).check = .ok () ↔ ((p.insert name target).color? target).isSome := by
  have hname : (p.insert name target).get? name = some target := by simp [get?_insert]
  constructor
  · intro h
    obtain ⟨k, hk⟩ := Option.isSome_iff_exists.1
      (check_eq_ok_iff.1 h name (by rw [hname]; rfl))
    obtain ⟨n, y, hlead, hy⟩ := color?_eq_some_iff.1 hk
    cases hlead with
    | ends hnone => simp [hname] at hnone
    | step hsome hrest =>
      obtain rfl := Option.some.inj (hname.symm.trans hsome)
      rw [hrest.color?_eq, hy]
      rfl
  · intro htarget
    have hnew : ((p.insert name target).color? name).isSome := isSome_color?_of_target hname htarget
    rw [check_eq_ok_iff]
    intro x hx
    by_cases hn : x = name
    · exact hn ▸ hnew
    · rw [get?_insert, if_neg hn] at hx
      obtain ⟨k, hk⟩ := Option.isSome_iff_exists.1 (check_eq_ok_iff.1 hp x hx)
      obtain ⟨n, y, hlead, hy⟩ := color?_eq_some_iff.1 hk
      exact hlead.isSome_color?_insert (by rw [hy]; rfl) hnew

end Listing.Palette
