import RegionGrid.Layout.Adaptive
import RegionGrid.Proofs.Placement.Listing
import RegionGrid.Proofs.Placement.Tiling

/-!
# Layouts with room at every width

The widths of a size class start at a threshold, and what fits into the least of them fits into all. So whether the
fixed columns of a layout fit at every width is a question about four widths, which can be computed. Main statement:
a layout that has room at these widths covers every container that is as high as the fixed rows of its template, up
to the free positions.
-/

namespace RegionGrid

/-! ### The least width of a class -/

theorem SizeClass.mem_all (size : SizeClass) : size ∈ all := by
  cases size <;> decide

namespace Breakpoints

/-- The least of the widths of a size class that are not negative. -/
def leastWidth (b : Breakpoints ℚ) : SizeClass → ℚ
  | .compact => 0
  | .medium => b.compact
  | .expanded => b.medium
  | .large => b.expanded

theorem leastWidth_sizeFor_le (b : Breakpoints ℚ) {width : ℚ} (hwidth : 0 ≤ width) :
    b.leastWidth (b.sizeFor width) ≤ width := by
  simp only [sizeFor, classify, decide_eq_true_eq]
  split
  · exact hwidth
  · next hcompact =>
    split
    · exact not_lt.mp hcompact
    · next hmedium =>
      split
      · exact not_lt.mp hmedium
      · next hexpanded => exact not_lt.mp hexpanded

end Breakpoints

/-! ### Templates -/

namespace GridTemplate

/--
The rectangles are those of the regions of a template, one for each; they lie in the container, no two of them over
each other, and have its area but for that of the free positions.
-/
structure Tiles (template : GridTemplate ℚ) (width height : ℚ) (placed : List (String × Rect ℚ)) : Prop where
  nodup : (placed.map Prod.fst).Nodup
  mem_keys_iff : ∀ name, name ∈ placed.map Prod.fst ↔ (tokenize template.rows).Names name
  inside : ∀ region ∈ placed,
    (0 ≤ region.2.left ∧ region.2.right ≤ width) ∧ 0 ≤ region.2.top ∧ region.2.bottom ≤ height
  apart : placed.Pairwise fun a b => ∀ x y, ¬ (a.2.contains x y = true ∧ b.2.contains x y = true)
  area_eq : (placed.map fun region => region.2.area).sum = width * height -
    (((tokenize template.rows).positionsOf placeholder).map
      (positionArea (resolve template.columnSizes width template.plan.columnCount)
        (resolve template.rowSizes height template.plan.rowCount))).sum

variable {template : GridTemplate ℚ} {width height : ℚ}

theorem tiles_place_of_fits (hwidth : 0 < width) (hheight : 0 < height)
    (hcolumns : Fits template.columnSizes width template.plan.columnCount)
    (hrows : Fits template.rowSizes height template.plan.rowCount) :
    template.Tiles width height (template.place width height) := by
  have hplan := describes_of_compile template.compiles
  have hcolumnSizes := resolve_nonneg template.columnSizes width template.plan.columnCount
  have hrowSizes := resolve_nonneg template.rowSizes height template.plan.rowCount
  have hcolumnSum := hcolumns.sum_resolve hwidth
  have hrowSum := hrows.sum_resolve hheight
  refine ⟨nodup_keys_placeCells hplan.nodup_names, fun name => ?_, fun region hregion => ?_,
    pairwise_apart_placeCells hplan hcolumnSizes hrowSizes, ?_⟩
  · have hwanted : isWanted none name = true := rfl
    rw [place, layOut, hplan.keys_placeCells, List.mem_filter, TokenGrid.mem_regionNames, hwanted]
    exact and_iff_left rfl
  · obtain ⟨cell, -, -, -, hrect⟩ := mem_placeCells.mp hregion
    rw [← hrect]
    have hinside := placeCell_inside hcolumnSizes hrowSizes cell
    rwa [hcolumnSum, hrowSum] at hinside
  · have hsum := hplan.sum_areas (resolve template.columnSizes width template.plan.columnCount)
      (resolve template.rowSizes height template.plan.rowCount)
    rw [area_frame (length_resolve ..) (length_resolve ..), hcolumnSum, hrowSum, ← sum_area_placeCells] at hsum
    exact eq_sub_of_add_eq hsum

/-- There is room for the fixed tracks of a template in containers of a width and of the height of its fixed rows. -/
structure Roomy (template : GridTemplate ℚ) (width : ℚ) : Prop where
  columns : Fits template.columnSizes width template.plan.columnCount
  rows : Fits template.rowSizes (fixedSum template.rowSizes) template.plan.rowCount
  fixedRows_pos : 0 < fixedSum template.rowSizes

instance (template : GridTemplate ℚ) (width : ℚ) : Decidable (template.Roomy width) :=
  decidable_of_iff
    (Fits template.columnSizes width template.plan.columnCount ∧
      Fits template.rowSizes (fixedSum template.rowSizes) template.plan.rowCount ∧ 0 < fixedSum template.rowSizes)
    ⟨fun ⟨hcolumns, hrows, hpos⟩ => ⟨hcolumns, hrows, hpos⟩, fun hroomy =>
      ⟨hroomy.columns, hroomy.rows, hroomy.fixedRows_pos⟩⟩

theorem Roomy.tiles_place {least : ℚ} (hroomy : template.Roomy least) (hleast : least ≤ width) (hwidth : 0 < width)
    (hheight : fixedSum template.rowSizes ≤ height) : template.Tiles width height (template.place width height) :=
  tiles_place_of_fits hwidth (hroomy.fixedRows_pos.trans_le hheight) (hroomy.columns.mono hleast)
    (hroomy.rows.mono hheight)

end GridTemplate

/-! ### Layouts -/

namespace AdaptiveLayout

/-- A layout has a template for every size class, with room at the least width of the class. -/
def Roomy (layout : AdaptiveLayout ℚ) : Prop :=
  ∀ size ∈ SizeClass.all, ∃ template ∈ layout.template? size,
    template.Roomy (layout.breakpoints.leastWidth size)

instance (layout : AdaptiveLayout ℚ) : Decidable layout.Roomy :=
  inferInstanceAs (Decidable (∀ size ∈ SizeClass.all, ∃ template ∈ layout.template? size,
    template.Roomy (layout.breakpoints.leastWidth size)))

theorem Roomy.exists_tiles {layout : AdaptiveLayout ℚ} (hroomy : layout.Roomy) {width : ℚ} (hwidth : 0 < width) :
    ∃ template, layout.templateFor? width = some template ∧
      ∀ height, fixedSum template.rowSizes ≤ height → (layout.place width height).missing = none ∧
        template.Tiles width height (layout.place width height).rects := by
  obtain ⟨template, htemplate, hroom⟩ := hroomy (layout.sizeFor width) (SizeClass.mem_all _)
  refine ⟨template, htemplate, fun height hheight => ?_⟩
  have hleast : layout.breakpoints.leastWidth (layout.sizeFor width) ≤ width :=
    layout.breakpoints.leastWidth_sizeFor_le hwidth.le
  have harea : ¬ (width ≤ 0 ∨ height ≤ 0) :=
    not_or.mpr ⟨hwidth.not_ge, (hroom.fixedRows_pos.trans_le hheight).not_ge⟩
  have hplace : layout.place width height = ⟨template.place width height, none⟩ := by
    rw [place, if_neg harea, templateFor?, Option.mem_def.mp htemplate]
  rw [hplace]
  exact ⟨rfl, hroom.tiles_place hleast hwidth hheight⟩

end AdaptiveLayout

end RegionGrid
