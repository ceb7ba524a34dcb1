import RegionGrid.Proofs.Placement.HitTest
import RegionGrid.Proofs.Track.Conservation
import Mathlib.Algebra.Order.BigOperators.Group.List
import Mathlib.Data.Set.Prod

/-!
# Regions tile the container

The positions of the cells and the free positions are all positions of the grid, each of them once, and the
area of a rectangle is the sum of the areas of its positions. So the areas of the regions and of the free
positions sum to that of the grid, and the sizes of the tracks make the grid as large as the container.
Main statement: the rectangles of the regions lie side by side in the container and fill it up to the free
positions.
-/

namespace RegionGrid

namespace Rect

def area (rect : Rect ℚ) : ℚ := rect.width * rect.height

/-- The points between the sides of a rectangle. -/
def interior (rect : Rect ℚ) : Set (ℚ × ℚ) :=
  Set.Ioo rect.left rect.right ×ˢ Set.Ioo rect.top rect.bottom

theorem contains_of_mem_interior {rect : Rect ℚ} {x y : ℚ} (hpoint : (x, y) ∈ rect.interior) :
    rect.contains x y = true := by
  obtain ⟨⟨hleft, hright⟩, htop, hbottom⟩ := hpoint
  exact decide_eq_true ⟨hleft.le, hright, htop.le, hbottom⟩

theorem interior_inter_eq_empty {a b : Rect ℚ}
    (hapart : ∀ x y, ¬ (a.contains x y = true ∧ b.contains x y = true)) : a.interior ∩ b.interior = ∅ := by
  apply Set.eq_empty_of_forall_notMem
  intro point hpoint
  exact hapart point.1 point.2 ⟨contains_of_mem_interior hpoint.1, contains_of_mem_interior hpoint.2⟩

end Rect

/-! ### Areas -/

section Area

variable (columnSizes rowSizes : List ℚ)

def positionArea (position : Nat × Nat) : ℚ :=
  columnSizes.getD position.2 0 * rowSizes.getD position.1 0

theorem area_placeCell (cell : Cell) :
    (placeCell cell columnSizes rowSizes).area =
      (cell.positions.map (positionArea columnSizes rowSizes)).sum := by
  have hrow : ∀ row, (((List.range' cell.column cell.columnSpan).map fun column => (row, column)).map
      (positionArea columnSizes rowSizes)).sum =
        (spanExtent columnSizes cell.column cell.columnSpan).2 * rowSizes.getD row 0 := by
    intro row
    rw [spanExtent_snd_eq_sum, ← List.sum_map_mul_right, List.map_map]
    rfl
  rw [Cell.positions, List.map_flatMap, List.flatMap_def, List.sum_flatten, List.map_map]
  calc (placeCell cell columnSizes rowSizes).area
      = (spanExtent columnSizes cell.column cell.columnSpan).2 *
          (spanExtent rowSizes cell.row cell.rowSpan).2 := rfl
    _ = ((List.range' cell.row cell.rowSpan).map fun row =>
          (spanExtent columnSizes cell.column cell.columnSpan).2 * rowSizes.getD row 0).sum := by
        rw [spanExtent_snd_eq_sum rowSizes, List.sum_map_mul_left]
    _ = _ := congrArg List.sum (List.map_congr_left fun row _ => (hrow row).symm)

end Area

/-- The cell of all positions of a grid. -/
def Plan.frame (plan : Plan) : Cell := ⟨"", 0, 0, plan.rowCount, plan.columnCount⟩

section Describes

variable {plan : Plan} {grid : TokenGrid} (hplan : plan.Describes grid)

include hplan

theorem Plan.Describes.mem_positions_or_free {position : Nat × Nat} :
    ((∃ cell ∈ plan.cells, position ∈ cell.positions) ∨ grid.word? position = some placeholder) ↔
      position ∈ plan.frame.positions := by
  obtain ⟨row, column⟩ := position
  have hframe : (row, column) ∈ plan.frame.positions ↔
      row < plan.rowCount ∧ column < plan.columnCount := by
    simp [Cell.mem_positions, Plan.frame]
  rw [hframe]
  constructor
  · intro h
    rcases h with ⟨cell, hcell, hposition⟩ | hfree
    · exact hplan.wellFormed.position_lt hcell hposition
    · exact hplan.exists_word?_iff.mp ⟨placeholder, hfree⟩
  · intro h
    obtain ⟨hrow, hcolumn⟩ := h
    by_cases hcovered : ∃ cell ∈ plan.cells, (row, column) ∈ cell.positions
    · exact .inl hcovered
    · refine .inr ((hplan.word?_eq_placeholder_iff hrow hcolumn).mpr fun cell hcell hposition => ?_)
      exact hcovered ⟨cell, hcell, hposition⟩

theorem Plan.Describes.nodup_positions :
    (plan.cells.flatMap Cell.positions ++ grid.positionsOf placeholder).Nodup := by
  have hcells : plan.cells.Pairwise fun a b => a.positions.Disjoint b.positions := by
    refine (hplan.nodup_names.of_map _).imp_of_mem fun {a b} ha hb hne => ?_
    exact fun position => hplan.wellFormed.disjoint a ha b hb hne position
  refine List.nodup_append'.mpr ⟨List.nodup_flatMap.mpr ⟨fun cell _ => cell.nodup_positions, hcells⟩,
    TokenGrid.nodup_positionsOf grid placeholder, fun position hposition hfree => ?_⟩
  obtain ⟨cell, hcell, hposition⟩ := List.mem_flatMap.mp hposition
  rw [TokenGrid.mem_positionsOf] at hfree
  have hname := ((hplan.regions cell hcell).word?_iff position).mpr hposition
  exact (hplan.names_of_mem hcell).1 (Option.some.inj (hname.symm.trans hfree))

theorem Plan.Describes.positions_perm :
    (plan.cells.flatMap Cell.positions ++ grid.positionsOf placeholder).Perm plan.frame.positions := by
  rw [List.perm_ext_iff_of_nodup hplan.nodup_positions plan.frame.nodup_positions]
  intro position
  rw [List.mem_append, List.mem_flatMap, TokenGrid.mem_positionsOf, hplan.mem_positions_or_free]

theorem Plan.Describes.sum_areas (columnSizes rowSizes : List ℚ) :
    (plan.cells.map fun cell => (placeCell cell columnSizes rowSizes).area).sum +
        ((grid.positionsOf placeholder).map (positionArea columnSizes rowSizes)).sum =
      (placeCell plan.frame columnSizes rowSizes).area := by
  have hsum := (hplan.positions_perm.map (positionArea columnSizes rowSizes)).sum_eq
  rw [List.map_append, List.sum_append, List.map_flatMap, List.flatMap_def, List.sum_flatten,
    List.map_map] at hsum
  rw [area_placeCell, ← hsum]
  simp only [area_placeCell]
  rfl

end Describes

/-! ### The regions of a container -/

section Placed

variable {plan : Plan} {grid : TokenGrid} {columnSizes rowSizes : List ℚ}

theorem sum_area_placeCells (plan : Plan) (columnSizes rowSizes : List ℚ) :
    ((placeCells plan columnSizes rowSizes).map fun region => region.2.area).sum =
      (plan.cells.map fun cell => (placeCell cell columnSizes rowSizes).area).sum := by
  rw [placeCells_eq_map, List.map_map]
  exact ((List.mergeSort_perm _ _).map _).sum_eq

theorem area_frame (hcolumns : columnSizes.length = plan.columnCount)
    (hrows : rowSizes.length = plan.rowCount) :
    (placeCell plan.frame columnSizes rowSizes).area = columnSizes.sum * rowSizes.sum := by
  simp only [placeCell, Plan.frame, Rect.area, spanExtent_snd, List.drop_zero, ← hcolumns, ← hrows,
    List.take_length]

variable (hplan : plan.Describes grid) (hcolumns : ∀ size ∈ columnSizes, 0 ≤ size)
  (hrows : ∀ size ∈ rowSizes, 0 ≤ size)

include hcolumns hrows

theorem placeCell_inside (cell : Cell) :
    let rect := placeCell cell columnSizes rowSizes
    (0 ≤ rect.left ∧ rect.right ≤ columnSizes.sum) ∧ 0 ≤ rect.top ∧ rect.bottom ≤ rowSizes.sum := by
  simp only [placeCell, Rect.right, Rect.bottom, spanExtent_fst, add_spanExtent_snd]
  refine ⟨⟨?_, ?_⟩, ?_, ?_⟩
  · exact edges_monotone hcolumns (Nat.zero_le _)
  · exact (List.take_sublist _ _).sum_le_sum hcolumns
  · exact edges_monotone hrows (Nat.zero_le _)
  · exact (List.take_sublist _ _).sum_le_sum hrows

include hplan

theorem pairwise_apart_placeCells :
    (placeCells plan columnSizes rowSizes).Pairwise fun a b =>
      ∀ x y, ¬ (a.2.contains x y = true ∧ b.2.contains x y = true) := by
  have hkeys : ((placeCells plan columnSizes rowSizes).map Prod.fst).Nodup :=
    nodup_keys_placeCells hplan.nodup_names
  refine (List.pairwise_map.mp hkeys).imp_of_mem fun {a b} ha hb hne => ?_
  obtain ⟨cell, hcell, -, hname, hrect⟩ := mem_placeCells.mp ha
  obtain ⟨other, hother, -, hotherName, hotherRect⟩ := mem_placeCells.mp hb
  intro x y hpoints
  obtain ⟨hpoint, hotherPoint⟩ := hpoints
  rw [← hrect] at hpoint
  rw [← hotherRect] at hotherPoint
  obtain ⟨row, column, hcolumn, hrow, hword⟩ :=
    (contains_iff_exists_word? hplan hcell hcolumns hrows).mp hpoint
  have hotherWord := word?_of_contains hplan hother hcolumns hrows hotherPoint hcolumn hrow
  apply hne
  rw [← hname, ← hotherName]
  exact Option.some.inj (hword.symm.trans hotherWord)

theorem pairwise_disjoint_placeCells :
    (placeCells plan columnSizes rowSizes).Pairwise fun a b => a.2.interior ∩ b.2.interior = ∅ :=
  (pairwise_apart_placeCells hplan hcolumns hrows).imp Rect.interior_inter_eq_empty

/-- Without free positions, every point of the container lies in a region. -/
theorem exists_contains_placeCells (hcolumnCount : columnSizes.length = plan.columnCount)
    (hrowCount : rowSizes.length = plan.rowCount) (hfree : ∀ row ∈ grid, placeholder ∉ row) {x y : ℚ}
    (hx : 0 ≤ x ∧ x < columnSizes.sum) (hy : 0 ≤ y ∧ y < rowSizes.sum) :
    ∃ region ∈ placeCells plan columnSizes rowSizes, region.2.contains x y = true := by
  obtain ⟨column, hcolumn, hxTrack⟩ := exists_onTrack hcolumns hx.1 hx.2
  obtain ⟨row, hrow, hyTrack⟩ := exists_onTrack hrows hy.1 hy.2
  rw [hcolumnCount] at hcolumn
  rw [hrowCount] at hrow
  obtain ⟨word, hword⟩ := hplan.exists_word?_iff.mpr ⟨hrow, hcolumn⟩
  obtain ⟨line, hline, hmem⟩ := TokenGrid.exists_word?_iff.mp ⟨_, hword⟩
  have hname : word ≠ placeholder := fun heq => hfree line hline (heq ▸ hmem)
  obtain ⟨cell, hcell, -, hposition⟩ := (hplan.word?_eq_some_iff hname).mp hword
  refine ⟨_, mem_placeCells.mpr ⟨cell, hcell, rfl, rfl, rfl⟩, ?_⟩
  exact (contains_placeCell_iff hcolumns hrows cell).mpr ⟨row, column, hxTrack, hyTrack, hposition⟩

end Placed

/--
The rectangles of the regions lie in the container, no two of them over each other, and have its area but
for that of the free positions. Where there are no free positions, they fill it.
-/
theorem layOut_tiles {rows : List String} {plan : Plan} (hcompile : compile rows = .ok plan)
    {columnSpecs rowSpecs : List (TrackSize ℚ)} {width height : ℚ} (hwidth : 0 < width)
    (hheight : 0 < height) (hcolumns : Fits columnSpecs width plan.columnCount)
    (hrows : Fits rowSpecs height plan.rowCount) :
    let placed := layOut plan columnSpecs rowSpecs width height
    let area := (placed.map fun region => region.2.area).sum
    let columnSizes := resolve columnSpecs width plan.columnCount
    let rowSizes := resolve rowSpecs height plan.rowCount
    (∀ region ∈ placed, (0 ≤ region.2.left ∧ region.2.right ≤ width) ∧
        0 ≤ region.2.top ∧ region.2.bottom ≤ height) ∧
      placed.Pairwise (fun a b => a.2.interior ∩ b.2.interior = ∅) ∧
      area = width * height -
        (((tokenize rows).positionsOf placeholder).map (positionArea columnSizes rowSizes)).sum ∧
      ((∀ row ∈ tokenize rows, placeholder ∉ row) → area = width * height ∧
        ∀ x y, 0 ≤ x ∧ x < width → 0 ≤ y ∧ y < height →
          ∃ region ∈ placed, region.2.contains x y = true) := by
  intro placed area columnSizes rowSizes
  have hplan := describes_of_compile hcompile
  have hcolumnSizes : ∀ size ∈ columnSizes, 0 ≤ size := resolve_nonneg _ _ _
  have hrowSizes : ∀ size ∈ rowSizes, 0 ≤ size := resolve_nonneg _ _ _
  have hcolumnCount : columnSizes.length = plan.columnCount := length_resolve _ _ _
  have hrowCount : rowSizes.length = plan.rowCount := length_resolve _ _ _
  have hcolumnSum : columnSizes.sum = width := hcolumns.sum_resolve hwidth
  have hrowSum : rowSizes.sum = height := hrows.sum_resolve hheight
  have harea : area = width * height -
      (((tokenize rows).positionsOf placeholder).map (positionArea columnSizes rowSizes)).sum := by
    have hsum := hplan.sum_areas columnSizes rowSizes
    rw [area_frame hcolumnCount hrowCount, hcolumnSum, hrowSum, ← sum_area_placeCells] at hsum
    exact eq_sub_of_add_eq hsum
  refine ⟨fun region hregion => ?_, pairwise_disjoint_placeCells hplan hcolumnSizes hrowSizes, harea,
    fun hfree => ⟨?_, fun x y hx hy => ?_⟩⟩
  · obtain ⟨cell, -, -, -, hrect⟩ := mem_placeCells.mp hregion
    rw [← hcolumnSum, ← hrowSum, ← hrect]
    exact placeCell_inside hcolumnSizes hrowSizes cell
  · have hnone : (tokenize rows).positionsOf placeholder = [] := by
      rw [List.eq_nil_iff_forall_not_mem]
      intro position hposition
      obtain ⟨row, hrow, hmem⟩ :=
        TokenGrid.exists_word?_iff.mp ⟨position, TokenGrid.mem_positionsOf.mp hposition⟩
      exact hfree row hrow hmem
    rw [harea, hnone, List.map_nil, List.sum_nil, sub_zero]
  · rw [← hcolumnSum] at hx
    rw [← hrowSum] at hy
    exact exists_contains_placeCells hplan hcolumnSizes hrowSizes hcolumnCount hrowCount hfree hx hy

/-- A region over two columns beside a free position, with a fixed, a flexible and a missing column. -/
theorem layOut_tiles_mixed :
    compile ["a a .", "b c c"] =
        .ok ⟨2, 3, [⟨"a", 0, 0, 1, 2⟩, ⟨"b", 1, 0, 1, 1⟩, ⟨"c", 1, 1, 1, 2⟩]⟩ ∧
      (0 : ℚ) < 300 ∧ (0 : ℚ) < 90 ∧ Fits [.fixed 60, .flex 2] 300 3 ∧ Fits [.flex 0] 90 2 ∧
        ((layOut ⟨2, 3, [⟨"a", 0, 0, 1, 2⟩, ⟨"b", 1, 0, 1, 1⟩, ⟨"c", 1, 1, 1, 2⟩]⟩
            [.fixed 60, .flex 2] [.flex 0] (300 : ℚ) 90).map fun region => region.2.area).sum =
          300 * 90 - (((tokenize ["a a .", "b c c"]).positionsOf placeholder).map
            (positionArea (resolve [.fixed 60, .flex 2] 300 3) (resolve [.flex 0] 90 2))).sum := by
  have hcompile : compile ["a a .", "b c c"] =
      .ok ⟨2, 3, [⟨"a", 0, 0, 1, 2⟩, ⟨"b", 1, 0, 1, 1⟩, ⟨"c", 1, 1, 1, 2⟩]⟩ := by decide +kernel
  have hcolumns : Fits [.fixed 60, .flex 2] 300 3 :=
    ⟨by decide +kernel, by decide +kernel, by decide +kernel⟩
  have hrows : Fits [.flex 0] 90 2 := ⟨by decide +kernel, by decide +kernel, by decide +kernel⟩
  have hwidth : (0 : ℚ) < 300 := by decide
  have hheight : (0 : ℚ) < 90 := by decide
  obtain ⟨-, -, harea, -⟩ := layOut_tiles hcompile hwidth hheight hcolumns hrows
  exact ⟨hcompile, hwidth, hheight, hcolumns, hrows, harea⟩

end RegionGrid
