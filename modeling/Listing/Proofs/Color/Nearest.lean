import Mathlib.Data.List.MinMax
import Mathlib.Data.Nat.Dist
import Listing.Color.Terminal

namespace Listing

namespace Rgb

variable {c d : Rgb}

theorem channelDistance_eq_dist (a b : UInt8) : channelDistance a b = Nat.dist a.toNat b.toNat :=
  rfl

theorem channelDistance_le (a b : UInt8) : channelDistance a b ≤ 255 := by
  have ha := a.toNat_lt
  have hb := b.toNat_lt
  rw [channelDistance]
  omega

theorem channelDistance_eq_zero_iff {a b : UInt8} : channelDistance a b = 0 ↔ a = b := by
  rw [channelDistance_eq_dist, ← UInt8.toNat_inj]
  exact ⟨Nat.eq_of_dist_eq_zero, Nat.dist_eq_zero⟩

theorem distance_le (c d : Rgb) : c.distance d ≤ 765 := by
  have hred := channelDistance_le c.red d.red
  have hgreen := channelDistance_le c.green d.green
  have hblue := channelDistance_le c.blue d.blue
  rw [distance]
  omega

theorem distance_comm (c d : Rgb) : c.distance d = d.distance c := by
  simp only [distance, channelDistance_eq_dist, Nat.dist_comm]

theorem distance_eq_zero_iff : c.distance d = 0 ↔ c = d := by
  rw [distance, Nat.add_eq_zero_iff, Nat.add_eq_zero_iff, channelDistance_eq_zero_iff,
    channelDistance_eq_zero_iff, channelDistance_eq_zero_iff, and_assoc]
  exact (mk.injEq _ _ _ _ _ _).to_iff.symm

theorem distance_triangle (c d e : Rgb) : c.distance e ≤ c.distance d + d.distance e := by
  have hchannel (x y z : UInt8) : channelDistance x z ≤ channelDistance x y + channelDistance y z :=
    Nat.dist.triangle_inequality x.toNat y.toNat z.toNat
  have hred := hchannel c.red d.red e.red
  have hgreen := hchannel c.green d.green e.green
  have hblue := hchannel c.blue d.blue e.blue
  simp only [distance]
  omega

end Rgb

namespace TerminalColor

variable {c : Rgb} {k : TerminalColor} {n : Nat}

def neutrals : List TerminalColor := [black, darkGray, gray, white]

theorem isVivid_iff : k.isVivid = true ↔ k ∉ neutrals := by cases k <;> decide

/-- A color is taken when it is nearer than the best one so far, which is kept with its distance. -/
def takeNearer (c : Rgb) (best : TerminalColor × Nat) (k : TerminalColor) : TerminalColor × Nat :=
  if k.rgb.distance c < best.2 then (k, k.rgb.distance c) else best

def scan (c : Rgb) (start : TerminalColor × Nat) : TerminalColor × Nat :=
  (all.filter isVivid).foldl (takeNearer c) start

/-- From the first color of a list on, the scan keeps the first one that is nearest. -/
theorem foldl_takeNearer (c : Rgb) (best : TerminalColor) (ks : List TerminalColor) :
    some (ks.foldl (takeNearer c) (best, best.rgb.distance c)).1 =
      (best :: ks).argmin fun k => k.rgb.distance c := by
  rw [List.argmin, List.foldl_cons]
  change _ = List.foldl _ (some best) ks
  induction ks generalizing best with
  | nil => rfl
  | cons k ks ih =>
    rw [List.foldl_cons, List.foldl_cons, takeNearer]
    by_cases hk : k.rgb.distance c < best.rgb.distance c
    · simpa only [List.argAux, hk, ↓reduceIte] using ih k
    · simpa only [List.argAux, hk, ↓reduceIte] using ih best

/-- It does not matter where the scan starts, when the first vivid color is kept from there on. -/
theorem scan_eq_argmin {start : TerminalColor × Nat}
    (h : takeNearer c start darkBlue = (darkBlue, darkBlue.rgb.distance c)) :
    some (scan c start).1 = (all.filter isVivid).argmin fun k => k.rgb.distance c := by
  have hvivid : all.filter isVivid = darkBlue :: (all.filter isVivid).tail := rfl
  rw [scan, hvivid, List.foldl_cons, h]
  exact foldl_takeNearer c darkBlue _

theorem nearest_eq_scan (c : Rgb) :
    nearest c = (scan c (darkBlue, darkBlue.rgb.distance c)).1 := by
  rw [nearest, scan]
  generalize darkBlue = best
  induction all.filter isVivid generalizing best with
  | nil => rfl
  | cons k ks ih =>
    rw [List.foldl_cons, List.foldl_cons, ih, takeNearer]
    by_cases hk : k.rgb.distance c < best.rgb.distance c
    · rw [if_pos hk, if_pos hk]
    · rw [if_neg hk, if_neg hk]

theorem argmin_vivid (c : Rgb) :
    (all.filter isVivid).argmin (fun k => k.rgb.distance c) = some (nearest c) := by
  have hself : takeNearer c (darkBlue, darkBlue.rgb.distance c) darkBlue =
      (darkBlue, darkBlue.rgb.distance c) := by
    rw [takeNearer, if_neg (Nat.lt_irrefl _)]
  rw [nearest_eq_scan, scan_eq_argmin hself]

theorem scan_eq_nearest (c : Rgb) (start : TerminalColor) (hn : 765 < n) :
    (scan c (start, n)).1 = nearest c := by
  have hfirst : takeNearer c (start, n) darkBlue = (darkBlue, darkBlue.rgb.distance c) :=
    if_pos (Nat.lt_of_le_of_lt (Rgb.distance_le _ c) hn)
  exact Option.some.inj ((scan_eq_argmin hfirst).trans (argmin_vivid c))

theorem idxOf_filter_lt {p : TerminalColor → Bool} {j k : TerminalColor} {ks : List TerminalColor}
    (hj : p j = true) (hk : p k = true) (h : ks.idxOf j < ks.idxOf k) :
    (ks.filter p).idxOf j < (ks.filter p).idxOf k := by
  induction ks with
  | nil => exact absurd h (Nat.lt_irrefl 0)
  | cons x ks ih =>
    by_cases hxk : x = k
    · subst hxk
      rw [List.idxOf_cons_self] at h
      exact absurd h (Nat.not_lt_zero _)
    rw [List.idxOf_cons_ne _ hxk] at h
    by_cases hxj : x = j
    · subst hxj
      rw [List.filter_cons_of_pos hj, List.idxOf_cons_self, List.idxOf_cons_ne _ hxk]
      exact Nat.succ_pos _
    rw [List.idxOf_cons_ne _ hxj] at h
    have hrest := ih (Nat.lt_of_succ_lt_succ h)
    by_cases hx : p x = true
    · rw [List.filter_cons_of_pos hx, List.idxOf_cons_ne _ hxj, List.idxOf_cons_ne _ hxk]
      exact Nat.succ_lt_succ hrest
    · rwa [List.filter_cons_of_neg hx]

/-- The nearest color is the first vivid color with the least distance. -/
theorem nearest_is_first_least (c : Rgb) :
    nearest c ∉ neutrals ∧
    (∀ k, k ∉ neutrals → (nearest c).rgb.distance c ≤ k.rgb.distance c) ∧
    (∀ k, k ∉ neutrals → all.idxOf k < all.idxOf (nearest c) →
      (nearest c).rgb.distance c < k.rgb.distance c) ∧
    (∀ start n, 765 < n → (scan c (start, n)).1 = nearest c) ∧
    ∀ x y : Rgb, x.distance y ≤ 765 ∧ x.distance y = y.distance x ∧
      (x.distance y = 0 ↔ x = y) ∧ ∀ z : Rgb, x.distance z ≤ x.distance y + y.distance z := by
  obtain ⟨hmem, hleast, hfirst⟩ := List.argmin_eq_some_iff.1 (argmin_vivid c)
  have hvivid {k : TerminalColor} (hk : k ∉ neutrals) : k.isVivid = true := isVivid_iff.2 hk
  have hmem' {k : TerminalColor} (hk : k ∉ neutrals) : k ∈ all.filter isVivid :=
    List.mem_filter.2 ⟨mem_all k, hvivid hk⟩
  have hnearest : nearest c ∉ neutrals := isVivid_iff.1 (List.mem_filter.1 hmem).2
  refine ⟨hnearest, fun k hk => hleast k (hmem' hk), fun k hk hbefore => ?_,
    fun start n hn => scan_eq_nearest c start hn, fun x y =>
      ⟨x.distance_le y, x.distance_comm y, Rgb.distance_eq_zero_iff, x.distance_triangle y⟩⟩
  by_contra hnot
  have hle := hfirst k (hmem' hk) (Nat.le_of_not_lt hnot)
  exact absurd (idxOf_filter_lt (hvivid hk) (hvivid hnearest) hbefore) (Nat.not_lt_of_le hle)

def tied : Rgb := ⟨128, 128, 255⟩

theorem nearest_is_first_least_tied :
    nearest tied = darkCyan ∧ darkGreen ∉ neutrals ∧
    all.idxOf darkGreen < all.idxOf (nearest tied) ∧
    (nearest tied).rgb.distance tied < darkGreen.rgb.distance tied ∧
    (nearest tied).rgb.distance tied ≤ cyan.rgb.distance tied ∧
    cyan.rgb.distance tied = 255 ∧ (scan tied (gray, 4294967295)).1 = darkCyan := by
  have hnearest : nearest tied = darkCyan := by decide
  have hgreen : darkGreen ∉ neutrals := by decide
  have hbefore : all.idxOf darkGreen < all.idxOf (nearest tied) := by
    rw [hnearest]
    decide
  obtain ⟨-, hleast, hfirst, hscan, -⟩ := nearest_is_first_least tied
  refine ⟨hnearest, hgreen, hbefore, hfirst darkGreen hgreen hbefore,
    hleast cyan (by decide), by decide, ?_⟩
  rw [hscan gray 4294967295 (by decide), hnearest]

end TerminalColor

end Listing
