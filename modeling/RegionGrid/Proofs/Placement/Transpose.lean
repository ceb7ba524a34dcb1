import RegionGrid.Proofs.Placement.HitTest
import RegionGrid.Proofs.Template.Reshape

/-!
# Exchanging the axes

Reading the columns of a template as rows swaps the two coordinates of every position, so regions stay
regions. Sizes are resolved and edges are summed on each axis by itself. Main statement: a template that is
turned so, with a region in its new first row, is valid, and when the sizes and the container are turned,
too, every region gets its rectangle with the axes exchanged. Nothing is assumed of the numbers: both
layouts do the same computations.
-/

namespace RegionGrid

namespace Cell

variable {cell : Cell} {position : Nat × Nat}

def transpose (cell : Cell) : Cell := ⟨cell.name, cell.column, cell.row, cell.columnSpan, cell.rowSpan⟩

theorem mem_positions_transpose : position ∈ cell.transpose.positions ↔ position.swap ∈ cell.positions := by
  rw [mem_positions, mem_positions]
  exact and_comm

end Cell

def Rect.transpose {α : Type} (rect : Rect α) : Rect α := ⟨rect.top, rect.left, rect.height, rect.width⟩

theorem placeCell_transpose {α : Type} [Zero α] [Add α] [Sub α] (cell : Cell)
    (columnSizes rowSizes : List α) :
    placeCell cell.transpose rowSizes columnSizes = (placeCell cell columnSizes rowSizes).transpose :=
  rfl

def Reshaping.transpose : Reshaping where
  origin := Prod.swap
  cell := Cell.transpose
  surjective := Prod.swap_surjective
  name_cell _ := rfl
  mem_positions _ _ := Cell.mem_positions_transpose

/-! ### Turned grids -/

namespace TokenGrid

/-- The grid that has a row for each word of the first row: the column of that word, from the top. -/
def transpose (grid : TokenGrid) : TokenGrid :=
  (List.range (grid.headD []).length).map fun column => grid.filterMap (·[column]?)

variable {grid : TokenGrid} {row column : Nat}

theorem length_transpose (grid : TokenGrid) : grid.transpose.length = (grid.headD []).length := by
  rw [transpose, List.length_map, List.length_range]

theorem mem_of_mem_transpose {line : List String} (hline : line ∈ grid.transpose) {word : String}
    (hword : word ∈ line) : ∃ row ∈ grid, word ∈ row := by
  obtain ⟨column, -, rfl⟩ := List.mem_map.mp hline
  obtain ⟨row, hrow, hword⟩ := List.mem_filterMap.mp hword
  exact ⟨row, hrow, List.mem_of_getElem? hword⟩

variable (heven : ∀ row ∈ grid, row.length = (grid.headD []).length)

include heven

theorem getElem?_transpose (hcolumn : column < (grid.headD []).length) :
    grid.transpose[column]? = some (grid.map (·.getD column placeholder)) := by
  have hwords : grid.filterMap (·[column]?) = grid.map (·.getD column placeholder) := by
    rw [← List.filterMap_eq_map]
    apply List.filterMap_congr
    intro row hrow
    have hlt : column < row.length := heven row hrow ▸ hcolumn
    simp [hlt]
  rw [transpose, List.getElem?_map, List.getElem?_range hcolumn, Option.map_some, hwords]

theorem length_of_mem_transpose {line : List String} (hline : line ∈ grid.transpose) :
    line.length = grid.length := by
  obtain ⟨column, hcolumn⟩ := List.mem_iff_getElem?.mp hline
  have hlt := (List.getElem?_eq_some_iff.mp hcolumn).1
  rw [getElem?_transpose heven (grid.length_transpose ▸ hlt)] at hcolumn
  rw [← Option.some.inj hcolumn, List.length_map]

theorem word?_transpose : grid.transpose.word? (column, row) = grid.word? (row, column) := by
  by_cases hcolumn : column < (grid.headD []).length
  · rw [word?, getElem?_transpose heven hcolumn, word?, Option.bind_some, List.getElem?_map]
    cases hrow : grid[row]? with
    | none => rfl
    | some words =>
      have hlt : column < words.length := heven words (List.mem_of_getElem? hrow) ▸ hcolumn
      simp [hlt]
  · -- No row has a word in this column.
    have hnone : grid.transpose[column]? = none :=
      List.getElem?_eq_none (by rw [length_transpose]; omega)
    rw [word?, hnone, word?]
    cases hrow : grid[row]? with
    | none => rfl
    | some words =>
      have hle : words.length ≤ column := by
        rw [heven words (List.mem_of_getElem? hrow)]
        omega
      simp [hle]

theorem gives_transpose : Reshaping.transpose.Gives grid grid.transpose := fun _ => word?_transpose heven

/-- The new first row is the old first column. -/
theorem headD_transpose {word : String} (hfirst : grid.word? (row, 0) = some word) :
    word ∈ grid.transpose.headD [] ∧ (grid.transpose.headD []).length = grid.length := by
  rw [← word?_transpose heven] at hfirst
  obtain ⟨line, hline, hword⟩ := word?_eq_some_iff.mp hfirst
  have hhead : grid.transpose.headD [] = line := by
    rw [List.headD_eq_head?_getD, List.head?_eq_getElem?, hline]
    rfl
  rw [hhead]
  exact ⟨List.mem_of_getElem? hword, length_of_mem_transpose heven (List.mem_of_getElem? hline)⟩

end TokenGrid

theorem exists_compile_transpose {rows : List String} {plan : Plan} (hcompile : compile rows = .ok plan)
    {row : Nat} {word : String} (hword : word ≠ placeholder)
    (hfirst : (tokenize rows).word? (row, 0) = some word) :
    ∃ cells : List Cell, cells.Perm (plan.cells.map Cell.transpose) ∧
      compile (tokenize rows).transpose.rows = .ok ⟨plan.columnCount, plan.rowCount, cells⟩ := by
  have hplan := describes_of_compile hcompile
  have heven : ∀ line ∈ tokenize rows, line.length = ((tokenize rows).headD []).length :=
    fun line hline => (hplan.even line hline).trans hplan.columnCount
  obtain ⟨hhead, hwidth⟩ := TokenGrid.headD_transpose heven hfirst
  have hwords : ∀ line ∈ (tokenize rows).transpose, ∀ word ∈ line, IsWord word := by
    intro line hline word hword
    obtain ⟨source, hsource, hword⟩ := TokenGrid.mem_of_mem_transpose hline hword
    exact isWord_of_mem_tokenize hsource hword
  have hevenTurned : ∀ line ∈ (tokenize rows).transpose,
      line.length = ((tokenize rows).transpose.headD []).length := by
    intro line hline
    rw [hwidth, TokenGrid.length_of_mem_transpose heven hline]
  obtain ⟨cells, hcells, hturned⟩ := Reshaping.exists_perm_compileTokens
    (TokenGrid.gives_transpose heven) hplan ⟨word, hhead, hword⟩ hevenTurned
  refine ⟨cells, hcells, ?_⟩
  rw [compile, tokenize_rows hwords, hturned, TokenGrid.length_transpose, hwidth, hplan.columnCount,
    hplan.rowCount]

/-! ### Turned layouts -/

theorem lookup_layOut_transpose {α : Type} [Zero α] [One α] [Add α] [Sub α] [Mul α] [Div α] [LT α]
    [LE α] [DecidableLT α] [DecidableLE α] {plan turned : Plan} (hnames : plan.names.Nodup)
    (hturnedNames : turned.names.Nodup) (hrows : turned.rowCount = plan.columnCount)
    (hcolumns : turned.columnCount = plan.rowCount)
    (hcells : turned.cells.Perm (plan.cells.map Cell.transpose)) (columnSpecs rowSpecs : List (TrackSize α))
    (width height : α) (names : Option (List String)) (name : String) :
    (layOut turned rowSpecs columnSpecs height width names).lookup name =
      ((layOut plan columnSpecs rowSpecs width height names).lookup name).map Rect.transpose := by
  apply Option.ext
  intro rect
  rw [Option.map_eq_some_iff]
  simp only [layOut, lookup_placeCells_eq_some_iff hnames, lookup_placeCells_eq_some_iff hturnedNames,
    hrows, hcolumns, hcells.mem_iff, List.mem_map]
  constructor
  · intro h
    obtain ⟨_, ⟨cell, hcell, rfl⟩, hwanted, rfl, rfl⟩ := h
    exact ⟨_, ⟨cell, hcell, hwanted, rfl, rfl⟩, rfl⟩
  · intro h
    obtain ⟨_, ⟨cell, hcell, hwanted, rfl, rfl⟩, rfl⟩ := h
    exact ⟨_, ⟨cell, hcell, rfl⟩, hwanted, rfl, placeCell_transpose cell _ _⟩

end RegionGrid
