import Mathlib
import Listing.Proofs.Color.Chain

namespace Listing

section Loop

variable {σ α : Type} {step : σ → σ ⊕ α} {s : σ} {a : α} {n : Nat}

/-- The result of a loop that ends after at most `n` turns. A turn gives a state to go on from, or
the result. -/
def loop (step : σ → σ ⊕ α) : Nat → σ → Option α
  | 0, _ => none
  | n + 1, s =>
    match step s with
    | .inl s' => loop step n s'
    | .inr a => some a

theorem loop_succ (h : loop step n s = some a) : loop step (n + 1) s = some a := by
  induction n generalizing s with
  | zero => cases h
  | succ n ih =>
    rw [loop] at h ⊢
    cases hs : step s with
    | inl s' =>
      rw [hs] at h
      exact ih h
    | inr b =>
      rw [hs] at h
      exact h

/-- A loop ends when each turn leaves less room for others. -/
theorem exists_loop (P : σ → Prop) (room : σ → Nat)
    (hstep : ∀ s s', P s → step s = .inl s' → P s' ∧ room s' < room s) (hs : P s)
    (hn : room s < n) : ∃ a, loop step n s = some a := by
  induction n generalizing s with
  | zero => exact absurd hn (Nat.not_lt_zero _)
  | succ n ih =>
    rw [loop]
    cases h : step s with
    | inl s' =>
      obtain ⟨hs', hroom⟩ := hstep s s' hs h
      exact ih hs' (by omega)
    | inr a => exact ⟨a, rfl⟩

end Loop

namespace Palette

/-- One turn of the search for the color of a name: the names passed so far, and the name it has
come to. -/
def seek (p : Palette) : List Text × Text → (List Text × Text) ⊕ Option TerminalColor
  | (passed, x) =>
    match p.get? x with
    | none => .inr (TerminalColor.ofName? x)
    | some y => if passed.contains x then .inr none else .inl (passed ++ [x], y)

def trace (p : Palette) (name : Text) : List Text × Text → (List Text × Text) ⊕ Option AliasError
  | (path, x) =>
    if path.contains x then .inr (some (.cycle (path ++ [x])))
    else
      match p.get? x with
      | some y => .inl (path ++ [x], y)
      | none =>
        .inr (if (TerminalColor.ofName? x).isSome then none else some (.dangling name x))

variable {p : Palette} {path : List Text} {x y name : Text} {n : Nat}

/-- How both loops go on: behind an alias that is new to them, with its target. -/
def Advances (p : Palette) (s s' : List Text × Text) : Prop :=
  s.2 ∉ s.1 ∧ ∃ y, p.get? s.2 = some y ∧ s' = (s.1 ++ [s.2], y)

theorem advances_of_seek {s s' : List Text × Text} (h : p.seek s = .inl s') : p.Advances s s' := by
  obtain ⟨passed, x⟩ := s
  rw [seek] at h
  cases hx : p.get? x with
  | none => simp [hx] at h
  | some y =>
    by_cases hmem : x ∈ passed
    · simp [hx, hmem] at h
    · simp only [hx, List.contains_iff_mem, hmem, ↓reduceIte, Sum.inl.injEq] at h
      exact ⟨hmem, y, hx, h.symm⟩

theorem advances_of_trace {s s' : List Text × Text} (h : p.trace name s = .inl s') :
    p.Advances s s' := by
  obtain ⟨path, x⟩ := s
  rw [trace] at h
  by_cases hmem : x ∈ path
  · simp [hmem] at h
  · cases hx : p.get? x with
    | none => simp [hx, hmem] at h
    | some y =>
      simp only [hx, List.contains_iff_mem, hmem, ↓reduceIte, Sum.inl.injEq] at h
      exact ⟨hmem, y, hx, h.symm⟩

structure Trail (p : Palette) (path : List Text) : Prop where
  nodup : path.Nodup
  isAlias : ∀ x ∈ path, (p.get? x).isSome

theorem trail_nil (p : Palette) : p.Trail [] := ⟨.nil, nofun⟩

theorem trail_singleton (h : p.get? x = some y) : p.Trail [x] :=
  ⟨List.nodup_singleton x, List.forall_mem_singleton.2 (by rw [h]; rfl)⟩

theorem Trail.length_le (h : p.Trail path) : path.length ≤ p.size :=
  length_le_size h.nodup fun x hx => mem_names (h.isAlias x hx)

theorem Trail.advance {s s' : List Text × Text} (h : p.Trail s.1) (hs : p.Advances s s') :
    p.Trail s'.1 ∧ s'.1.length = s.1.length + 1 := by
  obtain ⟨hnew, y, hy, rfl⟩ := hs
  refine ⟨⟨?_, ?_⟩, List.length_append⟩
  · simpa using h.nodup.concat hnew
  · intro z hz
    rcases List.mem_append.1 hz with hz | hz
    · exact h.isAlias z hz
    · rw [List.mem_singleton.1 hz, hy]
      rfl

/-- A loop that goes on in this way runs out of aliases. -/
theorem Trail.exists_loop {α : Type} {step : List Text × Text → (List Text × Text) ⊕ α}
    (hstep : ∀ s s', step s = .inl s' → p.Advances s s') (h : p.Trail path)
    (hn : p.size < path.length + n) (x : Text) : ∃ a, loop step n (path, x) = some a := by
  refine Listing.exists_loop (fun s => p.Trail s.1) (fun s => p.size - s.1.length) ?_ h ?_
  · intro s s' hs hnext
    obtain ⟨hs', hlength⟩ := hs.advance (hstep s s' hnext)
    have hle := hs'.length_le
    exact ⟨hs', by omega⟩
  · have hle := h.length_le
    dsimp only
    omega

end Palette

def Chain.color? : Chain → Option TerminalColor
  | .ends y => TerminalColor.ofName? y
  | .loops _ => none

def Chain.problem? (name : Text) : Chain → Option AliasError
  | .ends y => if (TerminalColor.ofName? y).isSome then none else some (.dangling name y)
  | .loops path => some (.cycle path)

namespace Palette

variable {p : Palette} {path : List Text} {x y name target : Text} {n : Nat}

theorem loop_seek {c : Option TerminalColor} (hpath : p.Trail path)
    (h : loop p.seek n (path, x) = some c) : c = (p.follow n path x).color? := by
  induction n generalizing path x with
  | zero => cases h
  | succ n ih =>
    rw [loop] at h
    rw [follow]
    cases hx : p.get? x with
    | none =>
      -- The search does not ask whether it has been at a name that is no alias.
      have hnew : x ∉ path := fun hmem => by simpa [hx] using hpath.isAlias x hmem
      simp only [seek, hx, Option.some.injEq] at h
      simp only [hnew, ↓reduceIte]
      exact h.symm
    | some y =>
      by_cases hmem : x ∈ path
      · simp only [seek, hx, List.contains_iff_mem, hmem, ↓reduceIte, Option.some.injEq] at h
        simp only [hmem, ↓reduceIte]
        exact h.symm
      · simp only [seek, hx, List.contains_iff_mem, hmem, ↓reduceIte] at h
        have hnext : p.Advances (path, x) (path ++ [x], y) := ⟨hmem, y, hx, rfl⟩
        simp only [hmem, ↓reduceIte]
        exact ih (Trail.advance (s := (path, x)) hpath hnext).1 h

theorem loop_trace {e : Option AliasError} (h : loop (p.trace name) n (path, x) = some e) :
    e = (p.follow n path x).problem? name := by
  induction n generalizing path x with
  | zero => cases h
  | succ n ih =>
    rw [loop] at h
    rw [follow]
    by_cases hmem : x ∈ path
    · simp only [trace, List.contains_iff_mem, hmem, ↓reduceIte, Option.some.injEq] at h
      simp only [hmem, ↓reduceIte]
      exact h.symm
    · cases hx : p.get? x with
      | none =>
        simp only [trace, hx, List.contains_iff_mem, hmem, ↓reduceIte, Option.some.injEq] at h
        simp only [hmem, ↓reduceIte]
        exact h.symm
      | some y =>
        simp only [trace, hx, List.contains_iff_mem, hmem, ↓reduceIte] at h
        simp only [hmem, ↓reduceIte]
        exact ih h

theorem seek_ends (p : Palette) (x : Text) :
    loop p.seek (p.size + 1) ([], x) = some (p.color? x) := by
  obtain ⟨c, hc⟩ := (trail_nil p).exists_loop (fun _ _ => advances_of_seek) (n := p.size + 1)
    (by simp) x
  rw [hc, loop_seek (trail_nil p) hc]
  rfl

theorem trace_ends (h : p.get? name = some target) :
    loop (p.trace name) (p.size + 1) ([name], target) = some (p.problem? name) := by
  have hturn (s s' : List Text × Text) (hs : p.trace name s = .inl s') : p.Advances s s' :=
    advances_of_trace hs
  obtain ⟨e, he⟩ := (trail_singleton h).exists_loop hturn (n := p.size) (by simp) target
  have hchain : p.chain name = p.follow p.size [name] target := by simp [chain, follow, h]
  rw [loop_succ he, loop_trace he, ← hchain]
  rfl

/-- Following aliases from a name leads to aliases for ever. -/
def Endless (p : Palette) (x : Text) : Prop :=
  ∃ f : Nat → Text, f 0 = x ∧ ∀ n, p.get? (f n) = some (f (n + 1))

theorem Leads.not_endless (h : p.Leads n x y) : ¬p.Endless x := by
  induction h with
  | ends hx =>
    rintro ⟨f, rfl, hf⟩
    simp [hf 0] at hx
  | step hx _ ih =>
    rintro ⟨f, rfl, hf⟩
    obtain rfl := Option.some.inj (hx.symm.trans (hf 0))
    exact ih ⟨fun n => f (n + 1), rfl, fun n => hf (n + 1)⟩

theorem exists_next (h : ∀ n y, ¬p.Leads n x y) :
    ∃ z, p.get? x = some z ∧ ∀ n y, ¬p.Leads n z y := by
  cases hx : p.get? x with
  | none => exact absurd (.ends hx) (h 0 x)
  | some z => exact ⟨z, rfl, fun n y hz => h (n + 1) y (.step hx hz)⟩

theorem endless_iff : p.Endless x ↔ ∀ n y, ¬p.Leads n x y := by
  constructor
  · exact fun h n y hlead => hlead.not_endless h
  · intro h
    choose next hget hnext using @exists_next p
    let turn (s : { x // ∀ n y, ¬p.Leads n x y }) : { x // ∀ n y, ¬p.Leads n x y } :=
      ⟨next s.2, hnext s.2⟩
    refine ⟨fun k => (turn^[k] ⟨x, h⟩).1, rfl, fun k => ?_⟩
    dsimp only
    rw [Function.iterate_succ_apply']
    exact hget _

theorem color?_eq_none_iff :
    p.color? x = none ↔
      p.Endless x ∨ ∃ n y, p.Leads n x y ∧ TerminalColor.ofName? y = none := by
  by_cases h : ∃ n y, p.Leads n x y
  · obtain ⟨n, y, hlead⟩ := h
    rw [hlead.color?_eq, or_iff_right hlead.not_endless]
    constructor
    · exact fun hy => ⟨n, y, hlead, hy⟩
    · rintro ⟨m, z, hlead', hz⟩
      rwa [(hlead.unique hlead').2]
  · have hnone : ∀ n y, ¬p.Leads n x y := fun n y hlead => h ⟨n, y, hlead⟩
    refine iff_of_true ?_ (.inl (endless_iff.2 hnone))
    rw [Option.eq_none_iff_forall_ne_some]
    intro k hk
    obtain ⟨n, y, hlead, -⟩ := color?_eq_some_iff.1 hk
    exact hnone n y hlead

/-- An alias passes the check when it stands for a color, and a name stands for what its chain ends
at, if it ends. Neither loop takes more turns than there are aliases and one. -/
theorem check_agrees_with_colors (p : Palette) :
    (p.check = .ok () ↔ ∀ x ∈ p.names, (p.color? x).isSome) ∧
    (∀ x k, p.color? x = some k ↔ ∃ n y, p.Leads n x y ∧ Text.agrees k.name y) ∧
    (∀ x, p.color? x = none ↔
      p.Endless x ∨ ∃ n y, p.Leads n x y ∧ ∀ k : TerminalColor, ¬Text.agrees k.name y) ∧
    (∀ x, loop p.seek (p.size + 1) ([], x) = some (p.color? x)) ∧
    ∀ x y, p.get? x = some y → loop (p.trace x) (p.size + 1) ([x], y) = some (p.problem? x) := by
  refine ⟨?_, fun x k => ?_, fun x => ?_, p.seek_ends, fun x y => trace_ends⟩
  · simp only [check_eq_ok_iff, mem_names_iff]
  · simp only [color?_eq_some_iff, TerminalColor.ofName?_eq_some_iff]
  · simp only [color?_eq_none_iff, TerminalColor.ofName?_eq_none_iff]

def tangled : Palette :=
  ofList [("tail", "a"), ("a", "b"), ("b", "a"), ("Red", "BLUE"), ("lost", "nowhere")]

theorem check_agrees_with_colors_tangled :
    tangled.get? "tail" = some "a" ∧
      loop (tangled.trace "tail") 6 (["tail"], "a") = some (some (.cycle ["tail", "a", "b", "a"])) ∧
      loop tangled.seek 6 ([], "tail") = some none ∧ tangled.Endless "tail" ∧
      (∃ n y, tangled.Leads n "Red" y ∧ Text.agrees TerminalColor.blue.name y) ∧
      tangled.check ≠ .ok () := by
  obtain ⟨hcheck, hsome, hnone, hseek, htrace⟩ := check_agrees_with_colors tangled
  have hsize : tangled.size = 5 := by cbv
  have htail : tangled.get? "tail" = some "a" := by cbv
  have hchain : tangled.chain "tail" = .loops ["tail", "a", "b", "a"] := by cbv
  have hcolor : tangled.color? "tail" = none := by cbv
  rw [hsize] at hseek htrace
  refine ⟨htail, ?_, ?_, ?_, ?_, ?_⟩
  · have hproblem : tangled.problem? "tail" = some (.cycle ["tail", "a", "b", "a"]) := by cbv
    exact (htrace "tail" "a" htail).trans (congrArg some hproblem)
  · exact (hseek "tail").trans (congrArg some hcolor)
  · refine ((hnone "tail").1 hcolor).resolve_right ?_
    rintro ⟨n, y, hlead, -⟩
    have hends : tangled.chain "tail" = .ends y := chain_eq_ends_iff.2 ⟨n, hlead⟩
    rw [hchain] at hends
    cases hends
  · have hred : tangled.chain "Red" = .ends "BLUE" := by cbv
    have hblue : TerminalColor.ofName? "BLUE" = some .blue := by decide
    exact (hsome "Red" .blue).1 (by rw [color?, hred]; exact hblue)
  · intro h
    have htail' := hcheck.1 h "tail" (mem_names_iff.2 (by rw [htail]; rfl))
    rw [hcolor] at htail'
    cases htail'

end Palette

end Listing
