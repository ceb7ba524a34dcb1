import RegionGrid.Placement
import Mathlib.Algebra.BigOperators.Group.List.Basic
import Mathlib.Algebra.Order.Field.Rat
import Mathlib.Data.Nat.SuccPred
import Mathlib.Order.SuccPred.IntervalSucc

/-!
# Edges of tracks

Over exact numbers the edge before a track is the sum of the sizes so far. When no size is negative the
edges ascend: a coordinate lies on one track at most, and it lies on one track of a run exactly when it
lies between the two ends of the run. Main statement: a cell starts after the sizes of the tracks before it and
reaches as far as the sizes of its own, those past the end left out, and every edge that it needs is there.
-/

namespace RegionGrid

variable {sizes : List ℚ} {track other start span : Nat} {x : ℚ}

theorem edgeBefore_eq_sum (sizes : List ℚ) (track : Nat) :
    edgeBefore sizes track = (sizes.take track).sum := by
  rw [edgeBefore, List.get_eq_getElem]
  simp only [trackEdges, List.getElem_scanl, List.sum_eq_foldl]
  rw [← List.take_eq_take_min]

theorem spanExtent_fst (sizes : List ℚ) (start span : Nat) :
    (spanExtent sizes start span).1 = (sizes.take start).sum :=
  edgeBefore_eq_sum sizes start

theorem add_spanExtent_snd (sizes : List ℚ) (start span : Nat) :
    (sizes.take start).sum + (spanExtent sizes start span).2 = (sizes.take (start + span)).sum := by
  rw [spanExtent, edgeBefore_eq_sum, edgeBefore_eq_sum]
  exact add_sub_cancel _ _

theorem spanExtent_snd (sizes : List ℚ) (start span : Nat) :
    (spanExtent sizes start span).2 = ((sizes.drop start).take span).sum := by
  apply add_left_cancel (a := (sizes.take start).sum)
  rw [add_spanExtent_snd, List.take_add, List.sum_append]

theorem sum_take_succ (sizes : List ℚ) (track : Nat) :
    (sizes.take (track + 1)).sum = (sizes.take track).sum + sizes.getD track 0 := by
  rw [List.take_add_one, List.sum_append, List.getD_eq_getElem?_getD]
  cases sizes[track]? with
  | none => rfl
  | some size => exact congrArg _ List.sum_singleton

/-- A run reaches as far as the sizes of its tracks, of which those past the end have none. -/
theorem spanExtent_snd_eq_sum (sizes : List ℚ) (start span : Nat) :
    (spanExtent sizes start span).2 =
      ((List.range' start span).map fun track => sizes.getD track 0).sum := by
  apply add_left_cancel (a := (sizes.take start).sum)
  rw [add_spanExtent_snd]
  induction span with
  | zero => simp
  | succ span ih =>
    rw [List.range'_concat, List.map_append, List.sum_append, ← Nat.add_assoc, sum_take_succ, ih,
      add_assoc, Nat.one_mul, List.map_singleton, List.sum_singleton]

/-- A coordinate on a track: from the edge before the track up to the one after it. -/
def OnTrack (sizes : List ℚ) (track : Nat) (x : ℚ) : Prop :=
  (sizes.take track).sum ≤ x ∧ x < (sizes.take (track + 1)).sum

theorem edges_monotone (hsizes : ∀ size ∈ sizes, 0 ≤ size) :
    Monotone fun track => (sizes.take track).sum := by
  apply monotone_nat_of_le_succ
  intro track
  by_cases hlt : track < sizes.length
  · rw [List.take_succ_eq_append_getElem hlt, List.sum_append, List.sum_singleton]
    exact le_add_of_nonneg_right (hsizes _ (List.getElem_mem hlt))
  · rw [List.take_of_length_le (by omega), List.take_of_length_le (by omega)]

theorem OnTrack.unique (hsizes : ∀ size ∈ sizes, 0 ≤ size) (htrack : OnTrack sizes track x)
    (hother : OnTrack sizes other x) : track = other := by
  by_contra hne
  exact Set.disjoint_left.mp ((edges_monotone hsizes).pairwise_disjoint_on_Ico_succ hne) htrack hother

theorem exists_onTrack_iff (hsizes : ∀ size ∈ sizes, 0 ≤ size) :
    (∃ track, (start ≤ track ∧ track < start + span) ∧ OnTrack sizes track x) ↔
      (sizes.take start).sum ≤ x ∧ x < (sizes.take (start + span)).sum := by
  constructor
  · intro h
    obtain ⟨track, ⟨hstart, hend⟩, hbefore, hafter⟩ := h
    exact ⟨(edges_monotone hsizes hstart).trans hbefore,
      hafter.trans_le (edges_monotone hsizes hend)⟩
  · intro h
    obtain ⟨hbefore, hafter⟩ := h
    induction span with
    | zero => exact absurd hafter hbefore.not_gt
    | succ span ih =>
      -- The last track of the run has the coordinate, or the run without that track does.
      by_cases hlast : x < (sizes.take (start + span)).sum
      · obtain ⟨track, ⟨hstart, hend⟩, htrack⟩ := ih hlast
        exact ⟨track, ⟨hstart, by omega⟩, htrack⟩
      · exact ⟨start + span, ⟨by omega, by omega⟩, not_lt.mp hlast, hafter⟩

theorem exists_onTrack (hsizes : ∀ size ∈ sizes, 0 ≤ size) (hx : 0 ≤ x) (hsum : x < sizes.sum) :
    ∃ track < sizes.length, OnTrack sizes track x := by
  have hrun : (sizes.take 0).sum ≤ x ∧ x < (sizes.take (0 + sizes.length)).sum := by
    rw [Nat.zero_add, List.take_length]
    exact ⟨hx, hsum⟩
  obtain ⟨track, ⟨-, hlt⟩, htrack⟩ := (exists_onTrack_iff hsizes).mpr hrun
  exact ⟨track, by omega, htrack⟩

/-! ### Where a cell lies -/

theorem spanExtent_eq_sums (sizes : List ℚ) (start span : Nat) :
    spanExtent sizes start span = ((sizes.take start).sum, (sizes.extract start (start + span)).sum) := by
  rw [List.extract_eq_take_drop, Nat.add_sub_cancel_left, ← spanExtent_snd, ← spanExtent_fst]

/--
The edges of a cell are looked up without a failure, and its rectangle is told by the sums of two slices of the
sizes on each axis: the tracks before the cell, and its own.
-/
theorem placeAt_eq_sums (cell : Cell) (columnSizes rowSizes : List ℚ) :
    placeAt cell.row cell.column cell.rowSpan cell.columnSpan columnSizes rowSizes =
        .ok (placeCell cell columnSizes rowSizes) ∧
      placeCell cell columnSizes rowSizes =
        { left := (columnSizes.take cell.column).sum
          top := (rowSizes.take cell.row).sum
          width := (columnSizes.extract cell.column (cell.column + cell.columnSpan)).sum
          height := (rowSizes.extract cell.row (cell.row + cell.rowSpan)).sum } := by
  refine ⟨placeAt_natCast cell columnSizes rowSizes, ?_⟩
  rw [placeCell, spanExtent_eq_sums, spanExtent_eq_sums]

/-- A cell that reaches past the end of one axis and starts past the end of the other. -/
example : placeCell ⟨"a", 3, 1, 2, 4⟩ [(10 : ℚ), 20, -5] [7] = ⟨10, 7, 15, 0⟩ := by decide +kernel

end RegionGrid
