import RegionGrid.Proofs.Template.ReadingOrder

/-!
# The top of a template

A valid template stays valid when rows are taken away at its bottom, as long as one is left. The words above
the cut stay where they are, so a region that the cut goes through keeps its rows above and is still a
rectangle, and a region that starts below the cut is gone. Main statement: the first rows of a template compile
to the top of its plan.
-/

namespace RegionGrid

/-- What a cell has of the first rows of a grid. -/
def Cell.top (cell : Cell) (count : Nat) : Cell :=
  { cell with rowSpan := min cell.rowSpan (count - cell.row) }

/-- The first rows of a plan, with what the cells that start there have of them. -/
def Plan.top (plan : Plan) (count : Nat) : Plan where
  rowCount := count
  columnCount := plan.columnCount
  cells := (plan.cells.filter (·.row < count)).map (·.top count)

variable {grid : TokenGrid} {plan : Plan} {cell : Cell} {count : Nat} {position : Nat × Nat} {name : String}

theorem Cell.mem_positions_top :
    position ∈ (cell.top count).positions ↔ position ∈ cell.positions ∧ position.1 < count := by
  simp only [mem_positions, top]
  omega

theorem Plan.mem_cells_top {top : Cell} :
    top ∈ (plan.top count).cells ↔ ∃ cell ∈ plan.cells, cell.row < count ∧ cell.top count = top := by
  simp only [Plan.top, List.mem_map, List.mem_filter, decide_eq_true_eq, and_assoc]

theorem Plan.mem_names_top :
    name ∈ (plan.top count).names ↔ ∃ cell ∈ plan.cells, cell.row < count ∧ cell.name = name := by
  simp only [names, Plan.top, List.map_map, List.mem_map, List.mem_filter, decide_eq_true_eq, and_assoc]
  rfl

namespace TokenGrid

theorem word?_take_eq_some_iff :
    word? (grid.take count) position = some name ↔ grid.word? position = some name ∧ position.1 < count := by
  rw [word?, word?, List.getElem?_take]
  by_cases hrow : position.1 < count
  · rw [if_pos hrow, and_iff_left hrow]
  · simp [hrow]

theorem headD_take (hcount : 1 ≤ count) : (grid.take count).headD [] = grid.headD [] := by
  rw [List.headD_eq_head?_getD, List.headD_eq_head?_getD, List.head?_take, if_neg (by omega)]

theorem HasRegion.top (hregion : grid.HasRegion cell) (hstart : cell.row < count) :
    HasRegion (grid.take count) (cell.top count) where
  rowSpan_pos := by
    have hrows := hregion.rowSpan_pos
    simp only [Cell.top]
    omega
  columnSpan_pos := hregion.columnSpan_pos
  word?_iff position := by
    rw [word?_take_eq_some_iff, Cell.mem_positions_top, ← hregion.word?_iff]
    rfl

end TokenGrid

namespace Plan.Describes

variable (hplan : plan.Describes grid)

include hplan

theorem names_take_iff : TokenGrid.Names (grid.take count) name ↔ name ∈ (plan.top count).names := by
  rw [mem_names_top]
  constructor
  · intro hname
    obtain ⟨hfree, position, hword⟩ := TokenGrid.names_iff.mp hname
    obtain ⟨hword, hrow⟩ := TokenGrid.word?_take_eq_some_iff.mp hword
    obtain ⟨cell, hcell, hsame, hposition⟩ := (hplan.word?_eq_some_iff hfree).mp hword
    have hstart := (Cell.mem_positions.mp hposition).1.1
    exact ⟨cell, hcell, by omega, hsame⟩
  · intro h
    obtain ⟨cell, hcell, hstart, rfl⟩ := h
    have hregion := (hplan.regions cell hcell).top hstart
    exact TokenGrid.names_iff.mpr ⟨(hplan.names_of_mem hcell).1, _, hregion.word?_start⟩

theorem regions_top : ∀ cell ∈ (plan.top count).cells, TokenGrid.HasRegion (grid.take count) cell := by
  intro cell hcell
  obtain ⟨whole, hwhole, hstart, rfl⟩ := mem_cells_top.mp hcell
  exact (hplan.regions whole hwhole).top hstart

theorem top (hcount : 1 ≤ count) (hle : count ≤ plan.rowCount) :
    (plan.top count).Describes (grid.take count) where
  rowCount := by
    rw [List.length_take, ← hplan.rowCount]
    exact (Nat.min_eq_left hle).symm
  columnCount := by
    rw [TokenGrid.headD_take hcount]
    exact hplan.columnCount
  even row hrow := hplan.even row (List.mem_of_mem_take hrow)
  names := by
    apply TokenGrid.names_eq_regionNames hplan.regions_top
    · exact fun name => hplan.names_take_iff.symm
    · -- The cut does not move the start of a cell, so what is left of the cells starts in the same order.
      exact List.pairwise_map.mpr (hplan.starts_sorted.filter _)
  regions := hplan.regions_top

end Plan.Describes

/-- The first rows of a template are a template for the first rows of its plan. -/
theorem compile_take {rows : List String} (hcompile : compile rows = .ok plan) (hcount : 1 ≤ count)
    (hle : count ≤ rows.length) : compile (rows.take count) = .ok (plan.top count) := by
  have hplan := describes_of_compile hcompile
  have hrows : plan.rowCount = rows.length := hplan.rowCount.trans (List.length_map _)
  have hne : tokenize rows ≠ [] := List.ne_nil_of_length_pos (by rw [← hplan.rowCount]; omega)
  rw [compile, tokenize, List.map_take, compileTokens_eq_ok_iff, TokenGrid.headD_take hcount]
  exact ⟨.inr (named_of_compile hcompile hne), hplan.top hcount (hrows ▸ hle)⟩

/-- Of four regions one ends above the cut, one at it, one is cut and one is gone. -/
theorem compile_take_cut :
    compile ["a a b", "c c b", "c c d"] =
        .ok ⟨3, 3, [⟨"a", 0, 0, 1, 2⟩, ⟨"b", 0, 2, 2, 1⟩, ⟨"c", 1, 0, 2, 2⟩, ⟨"d", 2, 2, 1, 1⟩]⟩ ∧
      1 ≤ 2 ∧ 2 ≤ ["a a b", "c c b", "c c d"].length ∧
        compile ["a a b", "c c b"] =
          .ok ⟨2, 3, [⟨"a", 0, 0, 1, 2⟩, ⟨"b", 0, 2, 2, 1⟩, ⟨"c", 1, 0, 1, 2⟩]⟩ := by
  have hcompile : compile ["a a b", "c c b", "c c d"] =
      .ok ⟨3, 3, [⟨"a", 0, 0, 1, 2⟩, ⟨"b", 0, 2, 2, 1⟩, ⟨"c", 1, 0, 2, 2⟩, ⟨"d", 2, 2, 1, 1⟩]⟩ := by
    decide +kernel
  have hcount : 1 ≤ 2 := by decide
  have hle : 2 ≤ ["a a b", "c c b", "c c d"].length := by decide
  exact ⟨hcompile, hcount, hle, compile_take hcompile hcount hle⟩

end RegionGrid
