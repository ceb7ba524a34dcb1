import RegionGrid.Proofs.CommandLine.Action
import RegionGrid.Proofs.Placement.Listing

/-!
# Placing regions in a container of whole size

The program places the regions of a layout in a container whose width and height are natural numbers. What it
places does not depend on what it did before. It fails where an axis has tracks and an extent that no double is
near to, or where a warning would show a name that is nested too deeply.
-/

namespace RegionGrid

namespace CommandLine

open RegionGrid.Action

variable {env : Environment} {o o' : Output} {layout : AdaptiveLayout Float} {room width height : Nat}
  {names : Option (List String)} {rects : List (String × Rect Float)}

section Axis

variable {specs : List (TrackSize Float)} {n whole count : Nat}

/-- The sizes of the tracks of an axis, for which its extent has to be a double if there are any. -/
def axisSizes (specs : List (TrackSize Float)) (whole count : Nat) : Except Failure (List Float) :=
  if count = 0 then .ok []
  else match Binary64.ofInt? whole with
    | some x => .ok (resolve specs x count)
    | none => .error .tooLarge

theorem gives_resolveAxis : Gives (resolveAxis specs whole count) (axisSizes specs whole count) := by
  rw [resolveAxis, axisSizes]
  split_ifs
  · exact gives_pure
  · rw [extent]
    cases Binary64.ofInt? whole with
    | none => exact gives_throw.bind fun _ => gives_pure
    | some x => exact gives_pure.bind fun _ => gives_record.bind fun _ => gives_pure

theorem silent_resolveAxis : Silent (resolveAxis specs whole count) := by
  rw [resolveAxis]
  split_ifs
  · exact silent_pure
  · rw [extent]
    cases Binary64.ofInt? whole with
    | none => exact silent_throw.bind fun _ => silent_record.bind fun _ => silent_pure
    | some x => exact silent_pure.bind fun _ => silent_record.bind fun _ => silent_pure

end Axis

/-- The regions of a layout that are asked for in a container of whole size, or why they cannot be placed. -/
def wholePlaced (room : Nat) (layout : AdaptiveLayout Float) (width height : Nat) (names : Option (List String)) :
    Except Failure (List (String × Rect Float)) :=
  if width = 0 ∨ height = 0 then .ok []
  else match layout.template? (layout.breakpoints.sizeForWhole width) with
    | none => if layout.name.obstacle? room = some .tooDeep then .error .tooDeep else .ok []
    | some template => do
      let columnSizes ← axisSizes template.columnSizes width template.plan.columnCount
      let rowSizes ← axisSizes template.rowSizes height template.plan.rowCount
      return placeCells template.plan columnSizes rowSizes names

theorem gives_place :
    Gives (place room layout width height names) (wholePlaced room layout width height names) := by
  rw [place, wholePlaced]
  by_cases hempty : width = 0 ∨ height = 0
  · rw [if_pos hempty, if_pos hempty]
    exact gives_pure
  · rw [if_neg hempty, if_neg hempty]
    dsimp only
    cases layout.template? (layout.breakpoints.sizeForWhole width) with
    | some template => exact gives_resolveAxis.bind fun _ => gives_resolveAxis.bind fun _ => gives_pure
    | none =>
      have hwarned {records : List Record} :
          Gives (recordShowing room layout.name records >>= fun _ => pure ([] : List (String × Rect Float)))
            ((if layout.name.obstacle? room = some .tooDeep then .error .tooDeep else .ok ()) >>= fun _ => .ok []) :=
        gives_recordShowing.bind fun _ => gives_pure
      split_ifs with hdeep
      · simp only [if_pos hdeep] at hwarned
        exact hwarned
      · simp only [if_neg hdeep] at hwarned
        exact hwarned

theorem silent_place : Silent (place room layout width height names) := by
  rw [place]
  by_cases hempty : width = 0 ∨ height = 0
  · rw [if_pos hempty]
    exact silent_pure
  · rw [if_neg hempty]
    dsimp only
    cases layout.template? (layout.breakpoints.sizeForWhole width) with
    | none => exact silent_recordShowing.bind fun _ => silent_pure
    | some template =>
      exact silent_resolveAxis.bind fun _ => silent_resolveAxis.bind fun _ => silent_pure

/-- All regions are placed, whichever of them are asked for. -/
theorem place_eq_filter (room : Nat) (layout : AdaptiveLayout Float) (width height : Nat)
    (names : Option (List String)) : place room layout width height names =
      (·.filter fun region => isWanted names region.1) <$> place room layout width height none := by
  rw [place, place]
  by_cases hempty : width = 0 ∨ height = 0
  · simp [hempty]
  · simp only [hempty, if_false]
    cases layout.template? (layout.breakpoints.sizeForWhole width) with
    | none => simp
    | some template => simp [placeCells_eq_filter _ _ names]

/-- The regions of a layout in a container, all of them. -/
def Places (env : Environment) (layout : AdaptiveLayout Float) (size : Nat × Nat)
    (rects : List (String × Rect Float)) : Prop :=
  ∃ o o', (place (env.room .missing) layout size.1 size.2 none).result o = (.ok rects, o')

theorem places_iff {size : Nat × Nat} : Places env layout size rects ↔
    wholePlaced (env.room .missing) layout size.1 size.2 none = .ok rects := by
  unfold Places
  simp only [gives_place.exists_result_eq_ok_iff]
  exact ⟨fun ⟨_, hplaced⟩ => hplaced, fun hplaced => ⟨{}, hplaced⟩⟩

end CommandLine

end RegionGrid
