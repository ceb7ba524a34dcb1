import RegionGrid.Proofs.Template.Compile
import Mathlib.Logic.Function.Basic

/-!
# Reshaped templates

Some changes of a template only move its words about: every position of the new grid has the word of an old
position, and the positions that come from those of a cell are those of a cell again. Main statement: a
template that is reshaped so is still valid, if its first row still names a region and its rows are still
even, and its cells are the reshaped ones.
-/

namespace RegionGrid

/-- Where the positions of a new grid come from, and what becomes of the cells of the old one. -/
structure Reshaping where
  origin : Nat × Nat → Nat × Nat
  cell : Cell → Cell
  surjective : Function.Surjective origin
  name_cell : ∀ c, (cell c).name = c.name
  mem_positions : ∀ c position, position ∈ (cell c).positions ↔ origin position ∈ c.positions

/-- Every word of the new grid is the one that the old grid has at its origin. -/
def Reshaping.Gives (reshaping : Reshaping) (grid reshaped : TokenGrid) : Prop :=
  ∀ position, reshaped.word? position = grid.word? (reshaping.origin position)

namespace Reshaping

variable {reshaping : Reshaping} {grid reshaped : TokenGrid} {cell : Cell} {plan : Plan}
  (hgives : reshaping.Gives grid reshaped)

include hgives

theorem names_iff {name : String} : reshaped.Names name ↔ grid.Names name := by
  rw [TokenGrid.names_iff, TokenGrid.names_iff]
  apply and_congr_right
  intro _
  constructor
  · intro h
    obtain ⟨position, hword⟩ := h
    exact ⟨reshaping.origin position, hgives position ▸ hword⟩
  · intro h
    obtain ⟨position, hword⟩ := h
    obtain ⟨place, rfl⟩ := reshaping.surjective position
    exact ⟨place, (hgives place).trans hword⟩

theorem hasRegion (hregion : grid.HasRegion cell) : reshaped.HasRegion (reshaping.cell cell) := by
  -- Something comes from the first position of the old cell, so the new one has positions.
  have hfirst := Cell.first_mem_positions hregion.rowSpan_pos hregion.columnSpan_pos
  obtain ⟨place, hplace⟩ := reshaping.surjective (cell.row, cell.column)
  rw [← hplace, ← reshaping.mem_positions, Cell.mem_positions] at hfirst
  constructor
  · omega
  · omega
  · intro position
    rw [hgives, reshaping.name_cell, reshaping.mem_positions, hregion.word?_iff]

theorem exists_perm_compileTokens (hplan : plan.Describes grid)
    (hnamed : ∃ word ∈ reshaped.headD [], word ≠ placeholder)
    (heven : ∀ row ∈ reshaped, row.length = (reshaped.headD []).length) :
    ∃ listed : List Cell, listed.Perm (plan.cells.map reshaping.cell) ∧
      compileTokens reshaped = .ok ⟨reshaped.length, (reshaped.headD []).length, listed⟩ := by
  have hnames : (plan.cells.map reshaping.cell).map Cell.name = plan.names := by
    rw [List.map_map]
    exact List.map_congr_left fun c _ => reshaping.name_cell c
  apply RegionGrid.exists_perm_compileTokens hnamed heven
  · rw [hnames]
    exact hplan.nodup_names
  · intro name
    rw [hnames, hplan.mem_names, names_iff hgives]
  · intro cell hcell
    obtain ⟨old, hold, rfl⟩ := List.mem_map.mp hcell
    exact hasRegion hgives (hplan.regions old hold)

end Reshaping

end RegionGrid
