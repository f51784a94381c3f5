import Mathlib.Data.List.ReduceOption
import Listing.Proofs.Paint.Shown

namespace Listing

/-- Characters with their colors, and the boundaries between them, which are `none`. -/
abbrev Pieces := List (Option (Char × Option TerminalColor))

namespace Pieces

def runs (ps : Pieces) : List Shown := (ps.splitOnP Option.isNone).map List.reduceOption

def dyed (run : Shown) : Text :=
  match run with
  | [] => []
  | (_, none) :: _ => run.map Prod.fst
  | (_, some k) :: _ => k.start ++ run.map Prod.fst ++ TerminalColor.reset

theorem runs_none (ps : Pieces) : runs (none :: ps) = [] :: runs ps := by
  rw [runs, List.splitOnP_cons_eq_if_modifyHead]
  rfl

theorem runs_some (a : Char × Option TerminalColor) (ps : Pieces) :
    runs (some a :: ps) = (runs ps).modifyHead (a :: ·) := by
  rw [runs, List.splitOnP_cons_eq_if_modifyHead]
  unfold runs
  cases List.splitOnP Option.isNone ps <;> rfl

theorem dyed_map (k : Option TerminalColor) (t : Text) :
    dyed (t.map fun c => (c, k)) = Stroke.inColor k t := by
  have hfst : (t.map fun c => (c, k)).map Prod.fst = t := by
    rw [List.map_map]
    exact List.map_id t
  cases t with
  | nil => cases k <;> rfl
  | cons c t =>
    cases k with
    | none => exact hfst
    | some k => exact congrArg (k.start ++ · ++ TerminalColor.reset) hfst

end Pieces

namespace Stroke

def pieces (k : Option TerminalColor) : List Stroke → Pieces
  | [] => []
  | mark c _ :: ss => some (c, k) :: pieces k ss
  | enter none _ :: ss => pieces k ss
  | enter (some k') _ :: ss => none :: pieces (some k') ss
  | leave none _ :: ss => pieces k ss
  | leave (some _) around :: ss => none :: pieces around ss

/-- The buffer holds the first run of the pieces, and all later runs have been written. -/
theorem runs_pieces (k : Option TerminalColor) (ss : List Stroke) :
    ∃ rs, (pieces k ss).runs = (runs ss).1.map (fun c => (c, k)) :: rs ∧
      (runs ss).2 = rs.flatMap Pieces.dyed := by
  induction ss generalizing k with
  | nil => exact ⟨[], rfl, rfl⟩
  | cons s ss ih =>
    cases s with
    | mark c raw =>
      obtain ⟨rs, hruns, hrest⟩ := ih k
      refine ⟨rs, ?_, hrest⟩
      rw [pieces, Pieces.runs_some, hruns]
      rfl
    | enter k' raw =>
      cases k' with
      | none => exact ih k
      | some k' =>
        obtain ⟨rs, hruns, hrest⟩ := ih (some k')
        refine ⟨(runs ss).1.map (fun c => (c, some k')) :: rs, ?_, ?_⟩
        · rw [pieces, Pieces.runs_none, hruns]
          rfl
        · rw [runs, List.flatMap_cons, Pieces.dyed_map, ← hrest]
    | leave k' around =>
      cases k' with
      | none => exact ih k
      | some k' =>
        obtain ⟨rs, hruns, hrest⟩ := ih around
        refine ⟨(runs ss).1.map (fun c => (c, around)) :: rs, ?_, ?_⟩
        · rw [pieces, Pieces.runs_none, hruns]
          rfl
        · rw [runs, List.flatMap_cons, Pieces.dyed_map, ← hrest]

theorem output_colored (ss : List Stroke) :
    PaintMode.colored.output ss = (pieces none ss).runs.flatMap Pieces.dyed := by
  obtain ⟨rs, hruns, hrest⟩ := runs_pieces none ss
  rw [hruns, List.flatMap_cons, Pieces.dyed_map, ← hrest]
  rfl

end Stroke

end Listing
