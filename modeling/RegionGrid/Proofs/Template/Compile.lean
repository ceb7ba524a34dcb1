import RegionGrid.Proofs.Checks
import RegionGrid.Proofs.Template.Region

/-!
# Valid templates

What a plan says about the grid of words that it was compiled from, and which grids have a plan. A plan
describes a grid if its cells are the regions of the grid, in the order in which they are first read,
and if it counts the rows and columns right. Compiling finds a plan exactly when there is one and the
first row names a region; everything else that is proved about compiling starts from this equivalence.
-/

namespace RegionGrid

theorem Plan.eq_of_name_eq {plan : Plan} (hnames : plan.names.Nodup) {a b : Cell}
    (ha : a ∈ plan.cells) (hb : b ∈ plan.cells) (hname : a.name = b.name) : a = b :=
  List.inj_on_of_nodup_map hnames ha hb hname

/-- The cells of the plan are the regions of the grid, and its counts are those of the grid. -/
structure Plan.Describes (plan : Plan) (grid : TokenGrid) : Prop where
  rowCount : plan.rowCount = grid.length
  columnCount : plan.columnCount = (grid.headD []).length
  even : ∀ row ∈ grid, row.length = plan.columnCount
  names : plan.names = grid.regionNames
  regions : ∀ cell ∈ plan.cells, grid.HasRegion cell

namespace Plan.Describes

variable {plan : Plan} {grid : TokenGrid} (hplan : plan.Describes grid)

include hplan

theorem nodup_names : plan.names.Nodup := by
  rw [hplan.names]
  exact TokenGrid.nodup_regionNames grid

theorem mem_names {name : String} : name ∈ plan.names ↔ grid.Names name := by
  rw [hplan.names, TokenGrid.mem_regionNames]

theorem names_of_mem {cell : Cell} (hcell : cell ∈ plan.cells) : grid.Names cell.name :=
  hplan.mem_names.mp (List.mem_map_of_mem hcell)

/-- A word stands at the positions of its cell. -/
theorem word?_eq_some_iff {name : String} (hname : name ≠ placeholder) {position : Nat × Nat} :
    grid.word? position = some name ↔
      ∃ cell ∈ plan.cells, cell.name = name ∧ position ∈ cell.positions := by
  constructor
  · intro hword
    have hnames : grid.Names name := TokenGrid.names_iff.mpr ⟨hname, position, hword⟩
    obtain ⟨cell, hcell, rfl⟩ := List.mem_map.mp (hplan.mem_names.mpr hnames)
    exact ⟨cell, hcell, rfl, ((hplan.regions cell hcell).word?_iff position).mp hword⟩
  · intro h
    obtain ⟨cell, hcell, rfl, hposition⟩ := h
    exact ((hplan.regions cell hcell).word?_iff position).mpr hposition

theorem exists_word?_iff {row column : Nat} :
    (∃ word, grid.word? (row, column) = some word) ↔
      row < plan.rowCount ∧ column < plan.columnCount := by
  rw [hplan.rowCount]
  exact TokenGrid.exists_word?_iff_of_even hplan.even

/-- The free positions are those that no cell has. -/
theorem word?_eq_placeholder_iff {row column : Nat} (hrow : row < plan.rowCount)
    (hcolumn : column < plan.columnCount) :
    grid.word? (row, column) = some placeholder ↔
      ∀ cell ∈ plan.cells, (row, column) ∉ cell.positions := by
  constructor
  · intro hword cell hcell hposition
    rw [← (hplan.regions cell hcell).word?_iff, hword] at hposition
    exact (hplan.names_of_mem hcell).1 (Option.some.inj hposition).symm
  · intro hfree
    obtain ⟨word, hword⟩ := hplan.exists_word?_iff.mpr ⟨hrow, hcolumn⟩
    by_cases hname : word = placeholder
    · rw [hword, hname]
    · obtain ⟨cell, hcell, -, hposition⟩ := (hplan.word?_eq_some_iff hname).mp hword
      exact absurd hposition (hfree cell hcell)

end Plan.Describes

/-! ### Which grids have a plan -/

theorem exists_ne_placeholder_iff {words : List String} :
    (∃ word ∈ words, word ≠ placeholder) ↔ words.all (· = placeholder) = false := by
  simp

theorem find?_uneven_eq_none_iff {grid : TokenGrid} {count : Nat} :
    grid.zipIdx.find? (fun (row, _) => row.length ≠ count) = none ↔
      ∀ row ∈ grid, row.length = count := by
  simp only [ne_eq, decide_not, List.find?_eq_none, Bool.not_eq_true', decide_eq_false_iff_not,
    not_not]
  constructor
  · intro heven row hrow
    obtain ⟨index, hindex⟩ := List.mem_iff_getElem?.mp hrow
    exact heven (row, index) (List.mk_mem_zipIdx_iff_getElem?.mpr hindex)
  · intro heven entry hentry
    exact heven entry.1 (List.fst_mem_of_mem_zipIdx hentry)

private theorem forall₂_named_iff {names : List String} {cells : List Cell} {p : Cell → Prop} :
    List.Forall₂ (fun name cell => cell.name = name ∧ p cell) names cells ↔
      cells.map Cell.name = names ∧ ∀ cell ∈ cells, p cell := by
  induction cells generalizing names with
  | nil => simp [List.forall₂_nil_right_iff, eq_comm]
  | cons cell cells ih =>
    rw [List.forall₂_cons_right_iff, List.map_cons, List.forall_mem_cons]
    constructor
    · intro h
      obtain ⟨_, _, ⟨rfl, hcell⟩, hcells, rfl⟩ := h
      obtain ⟨rfl, hall⟩ := ih.mp hcells
      exact ⟨rfl, hcell, hall⟩
    · intro h
      obtain ⟨rfl, hcell, hall⟩ := h
      exact ⟨_, _, ⟨rfl, hcell⟩, ih.mpr ⟨rfl, hall⟩, rfl⟩

private theorem mapM_regionCell_eq_ok_iff {grid : TokenGrid} {cells : List Cell} :
    grid.regionNames.mapM (regionCell grid) = .ok cells ↔
      cells.map Cell.name = grid.regionNames ∧ ∀ cell ∈ cells, grid.HasRegion cell := by
  simp only [mapM_eq_ok_iff, regionCell_eq_ok_iff, forall₂_named_iff]

private theorem compileTokens_cons_eq_ok_iff {firstRow : List String} {rest : TokenGrid}
    {plan : Plan} :
    compileTokens (firstRow :: rest) = .ok plan ↔
      (∃ word ∈ firstRow, word ≠ placeholder) ∧
        (∀ row ∈ firstRow :: rest, row.length = firstRow.length) ∧
          ∃ cells, (TokenGrid.regionNames (firstRow :: rest)).mapM (regionCell (firstRow :: rest)) =
              .ok cells ∧
            ⟨(firstRow :: rest).length, firstRow.length, cells⟩ = plan := by
  rw [exists_ne_placeholder_iff, ← find?_uneven_eq_none_iff, compileTokens]
  split
  · next hall => simp [hall]
  · next hnamed =>
    rw [Bool.not_eq_true] at hnamed
    split
    · next huneven => simp only [huneven, reduceCtorEq, false_and, and_false]
    · next heven =>
      simp only [hnamed, heven, true_and, bind_eq_ok_iff]
      constructor
      · intro h
        obtain ⟨cells, hcells, hplan⟩ := h
        exact ⟨cells, hcells, Except.ok.inj hplan⟩
      · intro h
        obtain ⟨cells, hcells, rfl⟩ := h
        exact ⟨cells, hcells, rfl⟩

theorem compileTokens_eq_ok_iff {grid : TokenGrid} {plan : Plan} :
    compileTokens grid = .ok plan ↔
      (grid = [] ∨ ∃ word ∈ grid.headD [], word ≠ placeholder) ∧ plan.Describes grid := by
  cases grid with
  | nil =>
    constructor
    · intro hok
      cases hok
      exact ⟨.inl rfl, ⟨rfl, rfl, by simp, rfl, by simp [Plan.empty]⟩⟩
    · intro h
      obtain ⟨-, hrows, hcolumns, -, hnames, -⟩ := h
      have hcells : plan.cells = [] := List.map_eq_nil_iff.mp hnames
      obtain ⟨rowCount, columnCount, cells⟩ := plan
      cases hrows
      cases hcolumns
      cases hcells
      rfl
  | cons firstRow rest =>
    rw [compileTokens_cons_eq_ok_iff]
    simp only [mapM_regionCell_eq_ok_iff, reduceCtorEq, false_or, List.headD_cons]
    apply and_congr_right
    intro _
    constructor
    · intro h
      obtain ⟨heven, cells, ⟨hnames, hregions⟩, rfl⟩ := h
      exact ⟨rfl, rfl, heven, hnames, hregions⟩
    · intro h
      obtain ⟨hrows, hcolumns, heven, hnames, hregions⟩ := h
      obtain ⟨rowCount, columnCount, cells⟩ := plan
      cases hrows
      cases hcolumns
      exact ⟨heven, cells, ⟨hnames, hregions⟩, rfl⟩

/--
The conditions for a template to be valid: the first row names a region, all rows have as many words as
the first, and every region fills the smallest box around it.
-/
structure TokenGrid.Valid (grid : TokenGrid) : Prop where
  named : ∃ word ∈ grid.headD [], word ≠ placeholder
  even : ∀ row ∈ grid, row.length = (grid.headD []).length
  filled : ∀ name, grid.Names name → grid.FillsBox name

theorem exists_compileTokens_eq_ok_iff {grid : TokenGrid} :
    (∃ plan, compileTokens grid = .ok plan) ↔ grid = [] ∨ grid.Valid := by
  simp only [compileTokens_eq_ok_iff]
  constructor
  · intro h
    obtain ⟨plan, hempty | hnamed, hplan⟩ := h
    · exact .inl hempty
    · refine .inr ⟨hnamed, hplan.columnCount ▸ hplan.even, fun name hname => ?_⟩
      obtain ⟨cell, hcell, rfl⟩ := List.mem_map.mp (hplan.mem_names.mpr hname)
      exact (hplan.regions cell hcell).fillsBox
  · intro h
    rcases h with rfl | hvalid
    · exact ⟨.empty, compileTokens_eq_ok_iff.mp rfl⟩
    · have hregions : ∀ name ∈ grid.regionNames, ∃ cell, regionCell grid name = .ok cell := by
        intro name hname
        exact exists_regionCell_eq_ok_iff.mpr (hvalid.filled name (TokenGrid.mem_regionNames.mp hname))
      obtain ⟨cells, hcells⟩ := exists_mapM_eq_ok_iff.mpr hregions
      obtain ⟨hnames, hcells⟩ := mapM_regionCell_eq_ok_iff.mp hcells
      exact ⟨⟨grid.length, (grid.headD []).length, cells⟩, .inr hvalid.named,
        ⟨rfl, rfl, hvalid.even, hnames, hcells⟩⟩

/-- Items with the given keys can be listed in the order of the keys. -/
theorem exists_perm_map_eq {α κ : Type} {key : α → κ} {keys : List κ} {items : List α}
    (hperm : keys.Perm (items.map key)) :
    ∃ listed : List α, listed.Perm items ∧ listed.map key = keys := by
  have hsame : List.Forall₂ (fun k item => k = key item) (items.map key) items := by
    rw [List.forall₂_map_left_iff]
    exact List.forall₂_same.mpr fun _ _ => rfl
  obtain ⟨listed, hlisted, hitems⟩ := List.perm_comp_forall₂ hperm hsame
  refine ⟨listed, hitems, ?_⟩
  rw [← List.forall₂_eq_eq_eq, List.forall₂_map_left_iff]
  exact hlisted.flip.imp fun _ _ heq => heq.symm

/-- A grid whose regions are known compiles to a plan that lists them in some order. -/
theorem exists_perm_compileTokens {grid : TokenGrid} {cells : List Cell}
    (hnamed : ∃ word ∈ grid.headD [], word ≠ placeholder)
    (heven : ∀ row ∈ grid, row.length = (grid.headD []).length)
    (hnodup : (cells.map Cell.name).Nodup)
    (hnames : ∀ name, name ∈ cells.map Cell.name ↔ grid.Names name)
    (hregions : ∀ cell ∈ cells, grid.HasRegion cell) :
    ∃ listed : List Cell, listed.Perm cells ∧
      compileTokens grid = .ok ⟨grid.length, (grid.headD []).length, listed⟩ := by
  have hperm : grid.regionNames.Perm (cells.map Cell.name) := by
    rw [List.perm_ext_iff_of_nodup (TokenGrid.nodup_regionNames grid) hnodup]
    intro name
    rw [TokenGrid.mem_regionNames, hnames]
  obtain ⟨listed, hlisted, hkeys⟩ := exists_perm_map_eq hperm
  refine ⟨listed, hlisted, compileTokens_eq_ok_iff.mpr ⟨.inr hnamed, rfl, rfl, heven, hkeys, ?_⟩⟩
  exact fun cell hcell => hregions cell (hlisted.subset hcell)

/-- A plan that was compiled from some rows describes their words. -/
theorem describes_of_compile {rows : List String} {plan : Plan} (hplan : compile rows = .ok plan) :
    plan.Describes (tokenize rows) :=
  (compileTokens_eq_ok_iff.mp hplan).2

theorem named_of_compile {rows : List String} {plan : Plan} (hcompile : compile rows = .ok plan)
    (hne : tokenize rows ≠ []) : ∃ word ∈ (tokenize rows).headD [], word ≠ placeholder :=
  (compileTokens_eq_ok_iff.mp hcompile).1.resolve_left hne

/--
A template compiles exactly when it has no rows or is valid, and then the plan counts the rows and
columns and has one cell for each region, whose place and spans are the smallest box around it.
-/
theorem exists_compile_eq_ok_iff_valid (rows : List String) :
    ((∃ plan, compile rows = .ok plan) ↔ rows = [] ∨ (tokenize rows).Valid) ∧
      ∀ plan, compile rows = .ok plan →
        plan.rowCount = rows.length ∧ plan.columnCount = ((tokenize rows).headD []).length ∧
          plan.names.Nodup ∧ (∀ name, name ∈ plan.names ↔ (tokenize rows).Names name) ∧
            ∀ cell ∈ plan.cells, ∃ box : Box,
              box.Bounds ((tokenize rows).occurrences cell.name) ∧ cell = box.cell cell.name := by
  refine ⟨?_, fun plan hcompile => ?_⟩
  · rw [← List.map_eq_nil_iff (f := words)]
    exact exists_compileTokens_eq_ok_iff
  · have hplan := describes_of_compile hcompile
    refine ⟨?_, hplan.columnCount, hplan.nodup_names, fun _ => hplan.mem_names, fun cell hcell => ?_⟩
    · rw [hplan.rowCount, tokenize, List.length_map]
    · have hregion := hplan.regions cell hcell
      exact ⟨cell.box, hregion.bounds, hregion.eq_cell hregion.bounds⟩

/-- Two regions that only differ in a NUL at their ends, one beside the other and below a third. -/
theorem exists_compile_eq_ok_iff_valid_nul :
    compile ["a a .b", "c c\x00 .b"] =
        .ok ⟨2, 3, [⟨"a", 0, 0, 1, 2⟩, ⟨".b", 0, 2, 2, 1⟩, ⟨"c", 1, 0, 1, 1⟩, ⟨"c\x00", 1, 1, 1, 1⟩]⟩ ∧
      (tokenize ["a a .b", "c c\x00 .b"]).Names "c\x00" ∧
        (tokenize ["a a .b", "c c\x00 .b"]).Valid := by
  have hcompile : compile ["a a .b", "c c\x00 .b"] =
      .ok ⟨2, 3, [⟨"a", 0, 0, 1, 2⟩, ⟨".b", 0, 2, 2, 1⟩, ⟨"c", 1, 0, 1, 1⟩,
        ⟨"c\x00", 1, 1, 1, 1⟩]⟩ := by decide +kernel
  obtain ⟨hok, hplan⟩ := exists_compile_eq_ok_iff_valid ["a a .b", "c c\x00 .b"]
  obtain ⟨-, -, -, hnames, -⟩ := hplan _ hcompile
  refine ⟨hcompile, (hnames "c\x00").mp (by decide), ?_⟩
  exact (hok.mp ⟨_, hcompile⟩).resolve_left (by decide)

end RegionGrid
