import RegionGrid.Proofs.Template.Compile
import RegionGrid.Proofs.Text.Words
import RegionGrid.Template.Drawing
import Mathlib.Tactic.MkIffOfInductiveProp

/-!
# Drawing and compiling

Drawing a plan and compiling a template undo each other. A well-formed plan has cells with names of their
own that lie side by side in its grid. Compiling gives only well-formed plans, and the drawing of a
compiled plan is the grid that it came from; the drawing of a well-formed plan, if a cell lies at its top,
compiles to that plan.
-/

namespace RegionGrid

/-- The cells have names of their own and lie in the grid, no two of them on one position. -/
@[mk_iff]
structure Plan.WellFormed (plan : Plan) : Prop where
  nodup_names : plan.names.Nodup
  spans_pos : ∀ cell ∈ plan.cells, 1 ≤ cell.rowSpan ∧ 1 ≤ cell.columnSpan
  inside : ∀ cell ∈ plan.cells,
    cell.row + cell.rowSpan ≤ plan.rowCount ∧ cell.column + cell.columnSpan ≤ plan.columnCount
  disjoint : ∀ a ∈ plan.cells, ∀ b ∈ plan.cells, a ≠ b →
    ∀ position ∈ a.positions, position ∉ b.positions

instance (plan : Plan) : Decidable plan.WellFormed := decidable_of_iff' _ plan.wellFormed_iff

namespace Plan

variable {plan : Plan} {cell : Cell} {row column : Nat} {name : String}

theorem WellFormed.eq_of_mem_positions (hplan : plan.WellFormed) {a b : Cell} (ha : a ∈ plan.cells)
    (hb : b ∈ plan.cells) {position : Nat × Nat} (hposition : position ∈ a.positions)
    (hother : position ∈ b.positions) : a = b := by
  by_contra hne
  exact hplan.disjoint a ha b hb hne position hposition hother

theorem WellFormed.position_lt (hplan : plan.WellFormed) (hcell : cell ∈ plan.cells)
    (hposition : (row, column) ∈ cell.positions) :
    row < plan.rowCount ∧ column < plan.columnCount := by
  have hinside := hplan.inside cell hcell
  rw [Cell.mem_positions] at hposition
  omega

theorem WellFormed.cell?_eq_some_iff (hplan : plan.WellFormed) :
    plan.cell? name = some cell ↔ cell ∈ plan.cells ∧ cell.name = name := by
  have hfound : ∀ {other}, plan.cell? name = some other → other ∈ plan.cells ∧ other.name = name := by
    intro other hfind
    have hname := List.find?_some hfind
    exact ⟨List.mem_of_find?_eq_some hfind, eq_of_beq hname⟩
  refine ⟨hfound, fun ⟨hcell, hname⟩ => ?_⟩
  cases hfind : plan.cell? name with
  | none => exact absurd (beq_iff_eq.mpr hname) (List.find?_eq_none.mp hfind cell hcell)
  | some other =>
    obtain ⟨hother, hsame⟩ := hfound hfind
    rw [eq_of_name_eq hplan.nodup_names hother hcell (hsame.trans hname.symm)]

theorem contains_iff : plan.contains name = true ↔ name ∈ plan.names := by
  simp [contains, names]

/-! ### Words of a drawing -/

theorem covers_iff : cell.covers row column = true ↔ (row, column) ∈ cell.positions := by
  simp [Cell.covers, Cell.mem_positions, and_assoc]

theorem wordAt_eq (plan : Plan) (row column : Nat) :
    (∃ cell ∈ plan.cells, (row, column) ∈ cell.positions ∧ plan.wordAt row column = cell.name) ∨
      (∀ cell ∈ plan.cells, (row, column) ∉ cell.positions) ∧
        plan.wordAt row column = placeholder := by
  cases hfind : plan.cells.find? (·.covers row column) with
  | none =>
    have hfree := List.find?_eq_none.mp hfind
    refine .inr ⟨fun cell hcell hposition => hfree cell hcell (covers_iff.mpr hposition), ?_⟩
    rw [wordAt, hfind]
    rfl
  | some cell =>
    have hcovers := List.find?_some hfind
    refine .inl ⟨cell, List.mem_of_find?_eq_some hfind, covers_iff.mp hcovers, ?_⟩
    rw [wordAt, hfind]
    rfl

theorem WellFormed.wordAt_of_mem (hplan : plan.WellFormed) (hcell : cell ∈ plan.cells)
    (hposition : (row, column) ∈ cell.positions) : plan.wordAt row column = cell.name := by
  obtain ⟨other, hother, hshared, hword⟩ | ⟨hfree, -⟩ := plan.wordAt_eq row column
  · rw [hword, hplan.eq_of_mem_positions hother hcell hshared hposition]
  · exact absurd hposition (hfree cell hcell)

theorem length_grid (plan : Plan) : plan.grid.length = plan.rowCount := by
  rw [grid, List.length_map, List.length_range]

theorem length_of_mem_grid {line : List String} (hline : line ∈ plan.grid) :
    line.length = plan.columnCount := by
  obtain ⟨row, -, rfl⟩ := List.mem_map.mp hline
  rw [List.length_map, List.length_range]

theorem word?_grid_eq_some_iff :
    plan.grid.word? (row, column) = some name ↔
      (row < plan.rowCount ∧ column < plan.columnCount) ∧ plan.wordAt row column = name := by
  by_cases hrow : row < plan.rowCount
  · by_cases hcolumn : column < plan.columnCount
    · simp [TokenGrid.word?, grid, hrow, hcolumn]
    · simp [TokenGrid.word?, grid, hrow, hcolumn]
  · simp [TokenGrid.word?, grid, hrow]

end Plan

theorem TokenGrid.ext_word? {a b : TokenGrid} (hlength : a.length = b.length)
    (hwords : ∀ position, a.word? position = b.word? position) : a = b := by
  apply List.ext_getElem hlength
  intro row ha hb
  apply List.ext_getElem?
  intro column
  simpa [word?, ha, hb] using hwords (row, column)

/-! ### Drawing a compiled plan -/

namespace Plan.Describes

variable {plan : Plan} {grid : TokenGrid} (hplan : plan.Describes grid)

include hplan

theorem wellFormed : plan.WellFormed where
  nodup_names := hplan.nodup_names
  spans_pos cell hcell :=
    ⟨(hplan.regions cell hcell).rowSpan_pos, (hplan.regions cell hcell).columnSpan_pos⟩
  inside cell hcell := by
    obtain ⟨hrowSpan, hcolumnSpan, hword⟩ := hplan.regions cell hcell
    have hlast := (hword _).mpr (Cell.last_mem_positions hrowSpan hcolumnSpan)
    obtain ⟨hrow, hcolumn⟩ := hplan.exists_word?_iff.mp ⟨_, hlast⟩
    rw [Cell.lastRow] at hrow
    rw [Cell.lastColumn] at hcolumn
    omega
  disjoint a ha b hb hne position hposition hother := by
    have hworda := ((hplan.regions a ha).word?_iff position).mpr hposition
    have hwordb := ((hplan.regions b hb).word?_iff position).mpr hother
    have hname : a.name = b.name := Option.some.inj (hworda.symm.trans hwordb)
    exact hne (eq_of_name_eq hplan.nodup_names ha hb hname)

theorem word?_eq_wordAt {row column : Nat} (hrow : row < plan.rowCount)
    (hcolumn : column < plan.columnCount) :
    grid.word? (row, column) = some (plan.wordAt row column) := by
  obtain ⟨cell, hcell, hposition, hword⟩ | ⟨hfree, hword⟩ := plan.wordAt_eq row column
  · rw [hword, (hplan.regions cell hcell).word?_iff]
    exact hposition
  · rw [hword, hplan.word?_eq_placeholder_iff hrow hcolumn]
    exact hfree

theorem grid_eq : plan.grid = grid := by
  apply TokenGrid.ext_word?
  · rw [length_grid, hplan.rowCount]
  · intro position
    obtain ⟨row, column⟩ := position
    apply Option.ext
    intro word
    rw [word?_grid_eq_some_iff]
    constructor
    · intro h
      obtain ⟨⟨hrow, hcolumn⟩, hword⟩ := h
      rw [hplan.word?_eq_wordAt hrow hcolumn, hword]
    · intro hword
      obtain ⟨hrow, hcolumn⟩ := hplan.exists_word?_iff.mp ⟨word, hword⟩
      rw [hplan.word?_eq_wordAt hrow hcolumn] at hword
      exact ⟨⟨hrow, hcolumn⟩, Option.some.inj hword⟩

end Plan.Describes

/--
Compiling loses and invents nothing: the plan is well-formed, it has a cell for exactly the words that
name regions, the positions of a cell are those of its word, the positions of no cell are the free ones,
and the plan is drawn as the words that it was compiled from.
-/
theorem grid_of_compile {rows : List String} {plan : Plan} (hcompile : compile rows = .ok plan) :
    plan.WellFormed ∧ (∀ cell ∈ plan.cells, cell.positions.Nodup) ∧
      (∀ name, plan.contains name = true ↔ (tokenize rows).Names name) ∧
      (∀ name, (∃ cell, plan.cell? name = some cell) ↔ (tokenize rows).Names name) ∧
      (∀ name, name ≠ placeholder → ∀ position, (tokenize rows).word? position = some name ↔
        ∃ cell, plan.cell? name = some cell ∧ position ∈ cell.positions) ∧
      (∀ row column, row < plan.rowCount → column < plan.columnCount →
        ((tokenize rows).word? (row, column) = some placeholder ↔
          ∀ cell ∈ plan.cells, (row, column) ∉ cell.positions)) ∧
      plan.grid = tokenize rows := by
  have hplan := describes_of_compile hcompile
  have hwf := hplan.wellFormed
  refine ⟨hwf, fun cell _ => cell.nodup_positions, fun name => ?_, fun name => ?_,
    fun name hname position => ?_, fun row column => hplan.word?_eq_placeholder_iff, hplan.grid_eq⟩
  · rw [Plan.contains_iff, hplan.mem_names]
  · rw [← hplan.mem_names, Plan.names, List.mem_map]
    simp only [hwf.cell?_eq_some_iff]
  · rw [hplan.word?_eq_some_iff hname]
    simp only [hwf.cell?_eq_some_iff, and_assoc]

/-- A template with a free position between two regions. -/
theorem grid_of_compile_pair :
    compile ["a . b", "a . b"] = .ok ⟨2, 3, [⟨"a", 0, 0, 2, 1⟩, ⟨"b", 0, 2, 2, 1⟩]⟩ ∧
      Plan.WellFormed ⟨2, 3, [⟨"a", 0, 0, 2, 1⟩, ⟨"b", 0, 2, 2, 1⟩]⟩ ∧
        Plan.grid ⟨2, 3, [⟨"a", 0, 0, 2, 1⟩, ⟨"b", 0, 2, 2, 1⟩]⟩ = [["a", ".", "b"], ["a", ".", "b"]] := by
  have hcompile : compile ["a . b", "a . b"] =
      .ok ⟨2, 3, [⟨"a", 0, 0, 2, 1⟩, ⟨"b", 0, 2, 2, 1⟩]⟩ := by decide +kernel
  obtain ⟨hwf, -, -, -, -, -, hgrid⟩ := grid_of_compile hcompile
  exact ⟨hcompile, hwf, hgrid.trans (by decide +kernel)⟩

/-! ### Compiling a drawn plan -/

theorem tokenize_rows {grid : TokenGrid} (hwords : ∀ line ∈ grid, ∀ word ∈ line, IsWord word) :
    tokenize grid.rows = grid := by
  rw [tokenize, TokenGrid.rows, List.map_map]
  exact (List.map_congr_left fun line hline => words_intercalate (hwords line hline)).trans
    (List.map_id grid)

theorem isWord_of_mem_tokenize {rows : List String} {line : List String} (hline : line ∈ tokenize rows)
    {word : String} (hword : word ∈ line) : IsWord word := by
  obtain ⟨text, -, rfl⟩ := List.mem_map.mp hline
  exact isWord_of_mem_words hword

theorem isWord_placeholder : IsWord placeholder := by decide

theorem Plan.isWord_of_mem_grid {plan : Plan} (hnames : ∀ cell ∈ plan.cells, IsWord cell.name) :
    ∀ line ∈ plan.grid, ∀ word ∈ line, IsWord word := by
  intro line hline word hword
  obtain ⟨row, -, rfl⟩ := List.mem_map.mp hline
  obtain ⟨column, -, rfl⟩ := List.mem_map.mp hword
  obtain ⟨cell, hcell, -, hname⟩ | ⟨-, hfree⟩ := plan.wordAt_eq row column
  · exact hname ▸ hnames cell hcell
  · exact hfree ▸ isWord_placeholder

namespace Plan.WellFormed

variable {plan : Plan} (hplan : plan.WellFormed)
  (hnames : ∀ cell ∈ plan.cells, cell.name ≠ placeholder)

include hplan

theorem hasRegion_grid {cell : Cell} (hcell : cell ∈ plan.cells) (hname : cell.name ≠ placeholder) :
    plan.grid.HasRegion cell where
  rowSpan_pos := (hplan.spans_pos cell hcell).1
  columnSpan_pos := (hplan.spans_pos cell hcell).2
  word?_iff := by
    intro position
    obtain ⟨row, column⟩ := position
    constructor
    · intro hword
      obtain ⟨-, hword⟩ := word?_grid_eq_some_iff.mp hword
      obtain ⟨other, hother, hposition, hsame⟩ | ⟨-, hfree⟩ := plan.wordAt_eq row column
      · rwa [eq_of_name_eq hplan.nodup_names hother hcell (hsame.symm.trans hword)] at hposition
      · exact absurd (hword.symm.trans hfree) hname
    · intro hposition
      exact word?_grid_eq_some_iff.mpr
        ⟨hplan.position_lt hcell hposition, hplan.wordAt_of_mem hcell hposition⟩

include hnames

theorem names_grid_iff {name : String} : plan.grid.Names name ↔ name ∈ plan.names := by
  rw [TokenGrid.names_iff]
  constructor
  · intro h
    obtain ⟨hname, ⟨row, column⟩, hword⟩ := h
    obtain ⟨-, hword⟩ := word?_grid_eq_some_iff.mp hword
    obtain ⟨cell, hcell, -, hsame⟩ | ⟨-, hfree⟩ := plan.wordAt_eq row column
    · exact (hsame.symm.trans hword) ▸ List.mem_map_of_mem hcell
    · exact absurd (hword.symm.trans hfree) hname
  · intro hname
    obtain ⟨cell, hcell, rfl⟩ := List.mem_map.mp hname
    have hregion := hplan.hasRegion_grid hcell (hnames cell hcell)
    exact ⟨hnames cell hcell, _, hregion.word?_start⟩

/-- The cells of the plan, in the order in which its drawing is read. -/
theorem exists_cells_perm :
    ∃ cells : List Cell, cells.Perm plan.cells ∧ cells.map Cell.name = plan.grid.regionNames := by
  have hperm : plan.grid.regionNames.Perm plan.names := by
    rw [List.perm_ext_iff_of_nodup (TokenGrid.nodup_regionNames _) hplan.nodup_names]
    intro name
    rw [TokenGrid.mem_regionNames, hplan.names_grid_iff hnames]
  exact exists_perm_map_eq hperm

end Plan.WellFormed

/--
Every well-formed plan with a cell at its top has a template: its drawing compiles to a plan of the same
size with the same cells.
-/
theorem compile_rows_perm {plan : Plan} (hplan : plan.WellFormed)
    (hnames : ∀ cell ∈ plan.cells, IsWord cell.name ∧ cell.name ≠ placeholder)
    (htop : ∃ cell ∈ plan.cells, ∃ column, (0, column) ∈ cell.positions) :
    ∃ cells : List Cell, cells.Perm plan.cells ∧
      compile plan.rows = .ok ⟨plan.rowCount, plan.columnCount, cells⟩ := by
  have hwords : ∀ cell ∈ plan.cells, IsWord cell.name := fun cell hcell => (hnames cell hcell).1
  have hfree : ∀ cell ∈ plan.cells, cell.name ≠ placeholder := fun cell hcell => (hnames cell hcell).2
  obtain ⟨top, htopCell, column, hposition⟩ := htop
  have htopWord := ((hplan.hasRegion_grid htopCell (hfree top htopCell)).word?_iff _).mpr hposition
  obtain ⟨line, hline, hword⟩ := TokenGrid.word?_eq_some_iff.mp htopWord
  have hhead : plan.grid.headD [] = line := by
    rw [List.headD_eq_head?_getD, List.head?_eq_getElem?, hline]
    rfl
  obtain ⟨cells, hperm, hcells⟩ := hplan.exists_cells_perm hfree
  refine ⟨cells, hperm, ?_⟩
  rw [compile, Plan.rows, tokenize_rows (Plan.isWord_of_mem_grid hwords), compileTokens_eq_ok_iff,
    hhead]
  refine ⟨.inr ⟨top.name, List.mem_of_getElem? hword, hfree top htopCell⟩, ?_⟩
  constructor
  · exact plan.length_grid.symm
  · rw [hhead, Plan.length_of_mem_grid (List.mem_of_getElem? hline)]
  · exact fun _ => Plan.length_of_mem_grid
  · exact hcells
  · intro cell hcell
    have hcell := hperm.subset hcell
    exact hplan.hasRegion_grid hcell (hfree cell hcell)

/-- Names that begin alike, that only differ in a NUL, or that begin like a free position. -/
theorem compile_rows_perm_alike :
    Plan.WellFormed ⟨3, 3, [⟨"a", 0, 0, 2, 1⟩, ⟨"a\x00", 0, 1, 1, 2⟩, ⟨".a", 1, 1, 1, 1⟩]⟩ ∧
      ∃ cells : List Cell,
        cells.Perm [⟨"a", 0, 0, 2, 1⟩, ⟨"a\x00", 0, 1, 1, 2⟩, ⟨".a", 1, 1, 1, 1⟩] ∧
          compile ["a a\x00 a\x00", "a .a .", ". . ."] = .ok ⟨3, 3, cells⟩ := by
  have hplan : Plan.WellFormed
      ⟨3, 3, [⟨"a", 0, 0, 2, 1⟩, ⟨"a\x00", 0, 1, 1, 2⟩, ⟨".a", 1, 1, 1, 1⟩]⟩ := by decide
  have hnames : ∀ cell ∈ [(⟨"a", 0, 0, 2, 1⟩ : Cell), ⟨"a\x00", 0, 1, 1, 2⟩, ⟨".a", 1, 1, 1, 1⟩],
      IsWord cell.name ∧ cell.name ≠ placeholder := by decide
  refine ⟨hplan, ?_⟩
  have hcompile := compile_rows_perm hplan hnames ⟨_, List.mem_cons_self, 0, by decide⟩
  rwa [show Plan.rows ⟨3, 3, [⟨"a", 0, 0, 2, 1⟩, ⟨"a\x00", 0, 1, 1, 2⟩, ⟨".a", 1, 1, 1, 1⟩]⟩ =
    ["a a\x00 a\x00", "a .a .", ". . ."] by decide +kernel] at hcompile

end RegionGrid
