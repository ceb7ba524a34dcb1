import RegionGrid.Proofs.Placement.HitTest
import Mathlib.Algebra.Order.BigOperators.Group.List

/-!
# Growing containers

A larger container gives no track a smaller size, and a rectangle is put together from sums of sizes. Main
statement: when the container grows, no side of a region moves back and no region gets smaller.
-/

namespace RegionGrid

/-- The grown rectangle has no side further back, and it is no narrower and no lower. -/
structure Rect.GrowsTo (rect grown : Rect ℚ) : Prop where
  left : rect.left ≤ grown.left
  top : rect.top ≤ grown.top
  width : rect.width ≤ grown.width
  height : rect.height ≤ grown.height
  right : rect.right ≤ grown.right
  bottom : rect.bottom ≤ grown.bottom

variable {sizes larger : List ℚ}

theorem spanExtent_mono (hsizes : List.Forall₂ (· ≤ ·) sizes larger) (start span : Nat) :
    (spanExtent sizes start span).1 ≤ (spanExtent larger start span).1 ∧
      (spanExtent sizes start span).2 ≤ (spanExtent larger start span).2 := by
  simp only [spanExtent_fst, spanExtent_snd]
  constructor
  · exact (List.forall₂_take start hsizes).sum_le_sum
  · exact (List.forall₂_take span (List.forall₂_drop start hsizes)).sum_le_sum

theorem placeCell_growsTo {columnSizes widerSizes rowSizes higherSizes : List ℚ}
    (hcolumns : List.Forall₂ (· ≤ ·) columnSizes widerSizes)
    (hrows : List.Forall₂ (· ≤ ·) rowSizes higherSizes) (cell : Cell) :
    (placeCell cell columnSizes rowSizes).GrowsTo (placeCell cell widerSizes higherSizes) := by
  obtain ⟨hleft, hwidth⟩ := spanExtent_mono hcolumns cell.column cell.columnSpan
  obtain ⟨htop, hheight⟩ := spanExtent_mono hrows cell.row cell.rowSpan
  constructor
  · exact hleft
  · exact htop
  · exact hwidth
  · exact hheight
  · exact add_le_add hleft hwidth
  · exact add_le_add htop hheight

/-- When the container grows, no region moves back or gets smaller. -/
theorem layOut_growsTo {rows : List String} {plan : Plan} (hcompile : compile rows = .ok plan)
    (columnSpecs rowSpecs : List (TrackSize ℚ)) {width wider height higher : ℚ}
    (hwidth : width ≤ wider) (hheight : height ≤ higher) {name : String}
    (hname : (tokenize rows).Names name) :
    ∃ rect grown, (layOut plan columnSpecs rowSpecs width height).lookup name = some rect ∧
      (layOut plan columnSpecs rowSpecs wider higher).lookup name = some grown ∧
        rect.GrowsTo grown := by
  have hplan := describes_of_compile hcompile
  obtain ⟨cell, hcell, rfl⟩ := List.mem_map.mp (hplan.mem_names.mpr hname)
  refine ⟨_, _, (lookup_layOut_eq_some_iff hplan.nodup_names).mpr ⟨cell, hcell, rfl, rfl⟩,
    (lookup_layOut_eq_some_iff hplan.nodup_names).mpr ⟨cell, hcell, rfl, rfl⟩, ?_⟩
  apply placeCell_growsTo
  · exact resolve_mono columnSpecs _ hwidth
  · exact resolve_mono rowSpecs _ hheight

/-- A container without height and too narrow for its first column grows until there is room. -/
theorem layOut_growsTo_overflow :
    compile ["a b", ". b"] = .ok ⟨2, 2, [⟨"a", 0, 0, 1, 1⟩, ⟨"b", 0, 1, 2, 1⟩]⟩ ∧
      (tokenize ["a b", ". b"]).Names "b" ∧ (100 : ℚ) ≤ 500 ∧ (-50 : ℚ) ≤ 60 ∧
        ∃ rect grown,
          (layOut ⟨2, 2, [⟨"a", 0, 0, 1, 1⟩, ⟨"b", 0, 1, 2, 1⟩]⟩ [.fixed 200, .flex 2] [.flex (-1)]
            (100 : ℚ) (-50)).lookup "b" = some rect ∧
          (layOut ⟨2, 2, [⟨"a", 0, 0, 1, 1⟩, ⟨"b", 0, 1, 2, 1⟩]⟩ [.fixed 200, .flex 2] [.flex (-1)]
            (500 : ℚ) 60).lookup "b" = some grown ∧ rect.GrowsTo grown := by
  have hcompile : compile ["a b", ". b"] =
      .ok ⟨2, 2, [⟨"a", 0, 0, 1, 1⟩, ⟨"b", 0, 1, 2, 1⟩]⟩ := by decide +kernel
  have hname : (tokenize ["a b", ". b"]).Names "b" := by decide +kernel
  have hwidth : (100 : ℚ) ≤ 500 := by decide
  have hheight : (-50 : ℚ) ≤ 60 := by decide
  exact ⟨hcompile, hname, hwidth, hheight, layOut_growsTo hcompile _ _ hwidth hheight hname⟩

end RegionGrid
