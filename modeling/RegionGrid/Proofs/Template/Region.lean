import RegionGrid.Proofs.Template.Positions
import Mathlib.Data.List.Perm.Basic
import Mathlib.Data.Set.Insert
import Mathlib.Order.Bounds.Basic

/-!
# Regions

A region is a word whose positions are exactly those of a cell. The check of a region puts the smallest
box around the positions of its word and looks at that box twice, once for a word that does not look
like the name and once at the number of positions. Main statement: the check succeeds exactly for
regions, and the cell it gives is the one of the region. The count is what makes it exact: as many
positions as the box has, none of them twice and all of them in the box, are the whole box.
-/

namespace RegionGrid

/-! ### The smallest box around some positions -/

namespace Box

variable {box other : Box} {positions : Set (Nat × Nat)} {position : Nat × Nat} {name : String}

/-- The sides of the box are the first and last rows and columns of the positions. -/
structure Bounds (box : Box) (positions : Set (Nat × Nat)) : Prop where
  firstRow : IsLeast (Prod.fst '' positions) box.firstRow
  firstColumn : IsLeast (Prod.snd '' positions) box.firstColumn
  lastRow : IsGreatest (Prod.fst '' positions) box.lastRow
  lastColumn : IsGreatest (Prod.snd '' positions) box.lastColumn

/-- The box holds the position. -/
def Holds (box : Box) (position : Nat × Nat) : Prop :=
  (box.firstRow ≤ position.1 ∧ position.1 ≤ box.lastRow) ∧
    box.firstColumn ≤ position.2 ∧ position.2 ≤ box.lastColumn

theorem Bounds.unique (hbox : box.Bounds positions) (hother : other.Bounds positions) :
    box = other := by
  obtain ⟨firstRow, firstColumn, lastRow, lastColumn⟩ := box
  congr
  · exact hbox.firstRow.unique hother.firstRow
  · exact hbox.firstColumn.unique hother.firstColumn
  · exact hbox.lastRow.unique hother.lastRow
  · exact hbox.lastColumn.unique hother.lastColumn

theorem Bounds.holds (hbox : box.Bounds positions) (hposition : position ∈ positions) :
    box.Holds position := by
  have hrow := Set.mem_image_of_mem Prod.fst hposition
  have hcolumn := Set.mem_image_of_mem Prod.snd hposition
  exact ⟨⟨hbox.firstRow.2 hrow, hbox.lastRow.2 hrow⟩,
    hbox.firstColumn.2 hcolumn, hbox.lastColumn.2 hcolumn⟩

theorem Bounds.firstRow_le (hbox : box.Bounds positions) : box.firstRow ≤ box.lastRow :=
  hbox.lastRow.2 hbox.firstRow.1

theorem Bounds.firstColumn_le (hbox : box.Bounds positions) : box.firstColumn ≤ box.lastColumn :=
  hbox.lastColumn.2 hbox.firstColumn.1

theorem Bounds.mem_positions_cell (hbox : box.Bounds positions) :
    position ∈ (box.cell name).positions ↔ box.Holds position := by
  have hrows := hbox.firstRow_le
  have hcolumns := hbox.firstColumn_le
  simp only [Cell.mem_positions, Holds, cell]
  omega

/-- The smallest box that also holds one more position. -/
private def grow (box : Box) (position : Nat × Nat) : Box :=
  ⟨min box.firstRow position.1, min box.firstColumn position.2, max box.lastRow position.1,
    max box.lastColumn position.2⟩

private theorem Bounds.grow (hbox : box.Bounds positions) (position : Nat × Nat) :
    (box.grow position).Bounds (insert position positions) where
  firstRow := by
    simpa only [Box.grow, Set.image_insert_eq, min_comm] using hbox.firstRow.insert position.1
  firstColumn := by
    simpa only [Box.grow, Set.image_insert_eq, min_comm] using hbox.firstColumn.insert position.2
  lastRow := by
    simpa only [Box.grow, Set.image_insert_eq, max_comm] using hbox.lastRow.insert position.1
  lastColumn := by
    simpa only [Box.grow, Set.image_insert_eq, max_comm] using hbox.lastColumn.insert position.2

private theorem bounds_foldl_grow (others : List (Nat × Nat)) {positions : Set (Nat × Nat)}
    (hbox : box.Bounds positions) :
    (others.foldl Box.grow box).Bounds (positions ∪ {other | other ∈ others}) := by
  induction others generalizing box positions with
  | nil => simpa using hbox
  | cons position others ih =>
    have hset : positions ∪ {other | other ∈ position :: others} =
        insert position positions ∪ {other | other ∈ others} := by
      ext other
      simp only [Set.mem_union, Set.mem_ofPred_eq, List.mem_cons, Set.mem_insert_iff]
      tauto
    rw [hset, List.foldl_cons]
    exact ih (hbox.grow position)

theorem bounds_around (first : Nat × Nat) (others : List (Nat × Nat)) :
    (around first others).Bounds {position | position ∈ first :: others} := by
  have hpoint : Bounds ⟨first.1, first.2, first.1, first.2⟩ {first} := by
    constructor <;> rw [Set.image_singleton]
    · exact isLeast_singleton
    · exact isLeast_singleton
    · exact isGreatest_singleton
    · exact isGreatest_singleton
  have hset : {position | position ∈ first :: others} = {first} ∪ {other | other ∈ others} := by
    ext position
    simp
  rw [hset]
  exact bounds_foldl_grow others hpoint

end Box

/-! ### Boxes of cells -/

namespace Cell

variable {cell : Cell}

/-- The box that a cell fills. -/
def box (cell : Cell) : Box := ⟨cell.row, cell.column, cell.lastRow, cell.lastColumn⟩

theorem cell_box (hrow : 1 ≤ cell.rowSpan) (hcolumn : 1 ≤ cell.columnSpan) :
    cell.box.cell cell.name = cell := by
  have hrows : cell.row + cell.rowSpan - 1 + 1 - cell.row = cell.rowSpan := by omega
  have hcolumns : cell.column + cell.columnSpan - 1 + 1 - cell.column = cell.columnSpan := by omega
  simp only [Box.cell, box, lastRow, lastColumn, hrows, hcolumns]

theorem first_mem_positions (hrow : 1 ≤ cell.rowSpan) (hcolumn : 1 ≤ cell.columnSpan) :
    (cell.row, cell.column) ∈ cell.positions := by
  rw [mem_positions]
  omega

theorem last_mem_positions (hrow : 1 ≤ cell.rowSpan) (hcolumn : 1 ≤ cell.columnSpan) :
    (cell.lastRow, cell.lastColumn) ∈ cell.positions := by
  rw [mem_positions, lastRow, lastColumn]
  omega

theorem holds_box_iff (hrow : 1 ≤ cell.rowSpan) (hcolumn : 1 ≤ cell.columnSpan)
    {position : Nat × Nat} : cell.box.Holds position ↔ position ∈ cell.positions := by
  simp only [mem_positions, Box.Holds, box, lastRow, lastColumn]
  omega

theorem bounds_box (hrow : 1 ≤ cell.rowSpan) (hcolumn : 1 ≤ cell.columnSpan) :
    cell.box.Bounds {position | position ∈ cell.positions} := by
  have hfirst := first_mem_positions hrow hcolumn
  have hlast := last_mem_positions hrow hcolumn
  have hinside : ∀ position ∈ cell.positions, cell.box.Holds position :=
    fun _ hposition => (holds_box_iff hrow hcolumn).mpr hposition
  constructor
  · refine ⟨⟨_, hfirst, rfl⟩, ?_⟩
    intro _ h
    obtain ⟨position, hposition, rfl⟩ := h
    exact (hinside position hposition).1.1
  · refine ⟨⟨_, hfirst, rfl⟩, ?_⟩
    intro _ h
    obtain ⟨position, hposition, rfl⟩ := h
    exact (hinside position hposition).2.1
  · refine ⟨⟨_, hlast, rfl⟩, ?_⟩
    intro _ h
    obtain ⟨position, hposition, rfl⟩ := h
    exact (hinside position hposition).1.2
  · refine ⟨⟨_, hlast, rfl⟩, ?_⟩
    intro _ h
    obtain ⟨position, hposition, rfl⟩ := h
    exact (hinside position hposition).2.2

end Cell

/-! ### Regions of a grid -/

namespace TokenGrid

variable {grid : TokenGrid} {cell : Cell} {name : String}

/-- The positions that hold a word. -/
def occurrences (grid : TokenGrid) (name : String) : Set (Nat × Nat) :=
  {position | grid.word? position = some name}

/-- Every position in the smallest box around a word holds that word. -/
def FillsBox (grid : TokenGrid) (name : String) : Prop :=
  ∃ box : Box, box.Bounds (grid.occurrences name) ∧
    ∀ position, box.Holds position → grid.word? position = some name

/-- The positions of the cell are exactly those of the word that is its name. -/
structure HasRegion (grid : TokenGrid) (cell : Cell) : Prop where
  rowSpan_pos : 1 ≤ cell.rowSpan
  columnSpan_pos : 1 ≤ cell.columnSpan
  word?_iff : ∀ position, grid.word? position = some cell.name ↔ position ∈ cell.positions

theorem HasRegion.word?_start (hregion : grid.HasRegion cell) :
    grid.word? (cell.row, cell.column) = some cell.name :=
  (hregion.word?_iff _).mpr (Cell.first_mem_positions hregion.rowSpan_pos hregion.columnSpan_pos)

theorem HasRegion.bounds (hregion : grid.HasRegion cell) :
    cell.box.Bounds (grid.occurrences cell.name) := by
  have hset : grid.occurrences cell.name = {position | position ∈ cell.positions} :=
    Set.ext hregion.word?_iff
  rw [hset]
  exact Cell.bounds_box hregion.rowSpan_pos hregion.columnSpan_pos

theorem HasRegion.eq_cell (hregion : grid.HasRegion cell) {box : Box}
    (hbox : box.Bounds (grid.occurrences cell.name)) : cell = box.cell cell.name := by
  rw [hbox.unique hregion.bounds, Cell.cell_box hregion.rowSpan_pos hregion.columnSpan_pos]

theorem HasRegion.fillsBox (hregion : grid.HasRegion cell) : grid.FillsBox cell.name := by
  refine ⟨cell.box, hregion.bounds, fun position hholds => ?_⟩
  rw [hregion.word?_iff]
  exact (Cell.holds_box_iff hregion.rowSpan_pos hregion.columnSpan_pos).mp hholds

theorem hasRegion_cell {box : Box} (hbox : box.Bounds (grid.occurrences name))
    (hfilled : ∀ position, box.Holds position → grid.word? position = some name) :
    grid.HasRegion (box.cell name) where
  rowSpan_pos := Nat.le_sub_of_add_le' (Nat.succ_le_succ hbox.firstRow_le)
  columnSpan_pos := Nat.le_sub_of_add_le' (Nat.succ_le_succ hbox.firstColumn_le)
  word?_iff position := by
    rw [hbox.mem_positions_cell]
    exact ⟨fun hword => hbox.holds hword, hfilled position⟩

end TokenGrid

/-! ### The check of a region -/

section Check

variable {grid : TokenGrid} {name : String} {cell : Cell} {first : Nat × Nat}
  {others : List (Nat × Nat)}

theorem looksLike_self (word : String) : looksLike word word = true := beq_self_eq_true _

theorem bounds_of_positionsOf (hpositions : grid.positionsOf name = first :: others) :
    (Box.around first others).Bounds (grid.occurrences name) := by
  have hset : grid.occurrences name = {position | position ∈ first :: others} := by
    ext position
    rw [← hpositions]
    exact TokenGrid.mem_positionsOf.symm
  rw [hset]
  exact Box.bounds_around first others

theorem TokenGrid.exists_bounds (hname : grid.Names name) :
    ∃ box : Box, box.Bounds (grid.occurrences name) := by
  obtain ⟨-, position, hword⟩ := names_iff.mp hname
  obtain ⟨first, others, hpositions⟩ :=
    List.exists_cons_of_ne_nil (List.ne_nil_of_mem (mem_positionsOf.mpr hword))
  exact ⟨Box.around first others, bounds_of_positionsOf hpositions⟩

/-- A list without repetitions that lies in another one has as many items only if it has all. -/
private theorem length_eq_iff_subset {α : Type} {xs ys : List α} (hxs : xs.Nodup) (hys : ys.Nodup)
    (hsub : xs ⊆ ys) : ys.length = xs.length ↔ ys ⊆ xs := by
  have hsubperm := List.subperm_of_subset hxs hsub
  constructor
  · intro hlength
    exact (hsubperm.perm_of_length_le hlength.le).symm.subset
  · intro hback
    exact ((List.subperm_of_subset hys hback).antisymm hsubperm).length_eq

/-- What the check asks for, once the box of the region is known. -/
private theorem regionCell_cons (hpositions : grid.positionsOf name = first :: others) :
    regionCell grid name = .ok cell ↔
      (∀ position ∈ ((Box.around first others).cell name).positions,
          ∀ found, grid.word? position = some found → looksLike found name = true) ∧
        ((Box.around first others).cell name).positions.length = (first :: others).length ∧
          (Box.around first others).cell name = cell := by
  generalize hcell : (Box.around first others).cell name = candidate
  have hmismatch : (candidate.positions.findSome? fun position =>
        (grid.word? position).bind fun found =>
          if looksLike found name then none else some (position, found)) = none ↔
      ∀ position ∈ candidate.positions,
        ∀ found, grid.word? position = some found → looksLike found name = true := by
    simp
  rw [← hmismatch, Cell.length_positions, List.length_cons]
  simp only [regionCell, hpositions, hcell]
  split
  · next hfound => simp [hfound]
  · next hnone =>
    split
    · next harea => simp [hnone, harea]
    · next harea => simp [harea]

/-- The check of a region succeeds exactly for a region. -/
theorem regionCell_eq_ok_iff :
    regionCell grid name = .ok cell ↔ cell.name = name ∧ grid.HasRegion cell := by
  cases hpositions : grid.positionsOf name with
  | nil =>
    have hnowhere : ∀ position, grid.word? position ≠ some name := by
      intro position hword
      simpa [hpositions] using TokenGrid.mem_positionsOf.mpr hword
    constructor
    · intro hok
      simp [regionCell, hpositions] at hok
    · intro h
      obtain ⟨rfl, hregion⟩ := h
      exact absurd hregion.word?_start (hnowhere _)
  | cons first others =>
    have hbounds := bounds_of_positionsOf hpositions
    have hinside : first :: others ⊆ ((Box.around first others).cell name).positions := by
      intro position hposition
      rw [hbounds.mem_positions_cell]
      rw [← hpositions, TokenGrid.mem_positionsOf] at hposition
      exact hbounds.holds hposition
    have hcount := length_eq_iff_subset (hpositions ▸ TokenGrid.nodup_positionsOf grid name)
      (Cell.nodup_positions _) hinside
    rw [regionCell_cons hpositions, hcount, ← hpositions]
    constructor
    · intro h
      obtain ⟨-, hall, rfl⟩ := h
      refine ⟨rfl, TokenGrid.hasRegion_cell hbounds fun position hholds => ?_⟩
      exact TokenGrid.mem_positionsOf.mp (hall (hbounds.mem_positions_cell.mpr hholds))
    · intro h
      obtain ⟨rfl, hregion⟩ := h
      rw [← hregion.eq_cell hbounds]
      refine ⟨fun position hposition found hfound => ?_, fun position hposition => ?_, rfl⟩
      · rw [(hregion.word?_iff position).mpr hposition] at hfound
        cases hfound
        exact looksLike_self _
      · exact TokenGrid.mem_positionsOf.mpr ((hregion.word?_iff position).mpr hposition)

theorem exists_regionCell_eq_ok_iff :
    (∃ cell, regionCell grid name = .ok cell) ↔ grid.FillsBox name := by
  simp only [regionCell_eq_ok_iff]
  constructor
  · intro h
    obtain ⟨cell, rfl, hregion⟩ := h
    exact hregion.fillsBox
  · intro h
    obtain ⟨box, hbounds, hfilled⟩ := h
    exact ⟨box.cell name, rfl, TokenGrid.hasRegion_cell hbounds hfilled⟩

end Check

end RegionGrid
