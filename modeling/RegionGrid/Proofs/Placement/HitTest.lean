import RegionGrid.Proofs.Assoc
import RegionGrid.Proofs.Placement.Edges
import RegionGrid.Proofs.Template.Drawing
import RegionGrid.Proofs.Track.Resolve

/-!
# Hit testing

Which rectangle a point of the container lies in. A cell has the tracks of its rows and columns, so a
point lies in its rectangle exactly when the row and the column under the point are tracks of the cell.
Main statement: the rectangle of a region holds a point exactly when the region's name is the word that
the template has in the row and column under the point.
-/

namespace RegionGrid

/-! ### Rectangles by name -/

section Names

variable {α : Type} [Zero α] [Add α] [Sub α] {plan : Plan} {columnSizes rowSizes : List α}
  {names : Option (List String)} {name : String} {rect : Rect α}

theorem placeCells_eq_map (plan : Plan) (columnSizes rowSizes : List α) :
    placeCells plan columnSizes rowSizes =
      plan.inReadingOrder.map fun cell => (cell.name, placeCell cell columnSizes rowSizes) := by
  rw [placeCells]
  exact congrArg (List.map _) (List.filter_eq_self.mpr fun _ _ => rfl)

theorem mem_placeCells :
    (name, rect) ∈ placeCells plan columnSizes rowSizes names ↔
      ∃ cell ∈ plan.cells, isWanted names cell.name = true ∧ cell.name = name ∧
        placeCell cell columnSizes rowSizes = rect := by
  simp only [placeCells, List.mem_map, List.mem_filter, Plan.inReadingOrder, List.mem_mergeSort,
    Prod.mk.injEq, and_assoc]

theorem nodup_keys_placeCells (hnames : plan.names.Nodup) :
    ((placeCells plan columnSizes rowSizes names).map Prod.fst).Nodup := by
  have hsorted : (plan.inReadingOrder.map Cell.name).Nodup :=
    ((List.mergeSort_perm _ _).map Cell.name).nodup_iff.mpr hnames
  rw [placeCells, List.map_map]
  exact hsorted.sublist (List.filter_sublist.map Cell.name)

theorem lookup_placeCells_eq_some_iff (hnames : plan.names.Nodup) :
    (placeCells plan columnSizes rowSizes names).lookup name = some rect ↔
      ∃ cell ∈ plan.cells, isWanted names cell.name = true ∧ cell.name = name ∧
        placeCell cell columnSizes rowSizes = rect := by
  rw [lookup_eq_some_iff_mem (nodup_keys_placeCells hnames), mem_placeCells]

end Names

/-! ### Points of rectangles -/

variable {columnSizes rowSizes : List ℚ} {x y : ℚ}

/-- A cell's rectangle holds the points whose row and column are tracks of the cell. -/
theorem contains_placeCell_iff (hcolumns : ∀ size ∈ columnSizes, 0 ≤ size)
    (hrows : ∀ size ∈ rowSizes, 0 ≤ size) (cell : Cell) :
    (placeCell cell columnSizes rowSizes).contains x y = true ↔
      ∃ row column, OnTrack columnSizes column x ∧ OnTrack rowSizes row y ∧
        (row, column) ∈ cell.positions := by
  have hcontains : (placeCell cell columnSizes rowSizes).contains x y = true ↔
      ((columnSizes.take cell.column).sum ≤ x ∧
          x < (columnSizes.take (cell.column + cell.columnSpan)).sum) ∧
        (rowSizes.take cell.row).sum ≤ y ∧ y < (rowSizes.take (cell.row + cell.rowSpan)).sum := by
    rw [Rect.contains, decide_eq_true_eq, Rect.right, Rect.bottom, and_assoc]
    simp only [placeCell, spanExtent_fst, add_spanExtent_snd]
  rw [hcontains, ← exists_onTrack_iff hcolumns, ← exists_onTrack_iff hrows]
  simp only [Cell.mem_positions]
  constructor
  · intro h
    obtain ⟨⟨column, hcolumn, hx⟩, row, hrow, hy⟩ := h
    exact ⟨row, column, hx, hy, hrow, hcolumn⟩
  · intro h
    obtain ⟨row, column, hx, hy, hrow, hcolumn⟩ := h
    exact ⟨⟨column, hcolumn, hx⟩, row, hrow, hy⟩

/-! ### Points of laid out templates -/

section Describes

variable {plan : Plan} {grid : TokenGrid} {cell : Cell} (hplan : plan.Describes grid)
  (hcell : cell ∈ plan.cells) (hcolumns : ∀ size ∈ columnSizes, 0 ≤ size)
  (hrows : ∀ size ∈ rowSizes, 0 ≤ size)

include hplan hcell hcolumns hrows

theorem contains_iff_exists_word? :
    (placeCell cell columnSizes rowSizes).contains x y = true ↔
      ∃ row column, OnTrack columnSizes column x ∧ OnTrack rowSizes row y ∧
        grid.word? (row, column) = some cell.name := by
  simp only [contains_placeCell_iff hcolumns hrows, (hplan.regions cell hcell).word?_iff]

/-- The row and the column under a point are unique, so they have the word of every cell there. -/
theorem word?_of_contains (hhit : (placeCell cell columnSizes rowSizes).contains x y = true)
    {row column : Nat} (hcolumn : OnTrack columnSizes column x) (hrow : OnTrack rowSizes row y) :
    grid.word? (row, column) = some cell.name := by
  obtain ⟨row', column', hcolumn', hrow', hword⟩ :=
    (contains_iff_exists_word? hplan hcell hcolumns hrows).mp hhit
  rwa [hcolumn.unique hcolumns hcolumn', hrow.unique hrows hrow']

end Describes

theorem lookup_layOut_eq_some_iff {plan : Plan} (hnames : plan.names.Nodup)
    {columnSpecs rowSpecs : List (TrackSize ℚ)} {width height : ℚ} {name : String} {rect : Rect ℚ} :
    (layOut plan columnSpecs rowSpecs width height).lookup name = some rect ↔
      ∃ cell ∈ plan.cells, cell.name = name ∧
        placeCell cell (resolve columnSpecs width plan.columnCount)
          (resolve rowSpecs height plan.rowCount) = rect := by
  rw [layOut, lookup_placeCells_eq_some_iff hnames]
  simp only [isWanted, Option.all_none, true_and]

/--
The rectangle of a region holds a point exactly when the region's name is the word in the row and the
column under the point. So no point lies in two regions, and none over a free position lies in one.
-/
theorem contains_layOut_iff {rows : List String} {plan : Plan} (hcompile : compile rows = .ok plan)
    (columnSpecs rowSpecs : List (TrackSize ℚ)) (width height x y : ℚ) :
    let placed := layOut plan columnSpecs rowSpecs width height
    let columnSizes := resolve columnSpecs width plan.columnCount
    let rowSizes := resolve rowSpecs height plan.rowCount
    (∀ name, (tokenize rows).Names name → ∃ rect, placed.lookup name = some rect ∧
        (rect.contains x y = true ↔ ∃ row column, OnTrack columnSizes column x ∧
          OnTrack rowSizes row y ∧ (tokenize rows).word? (row, column) = some name)) ∧
      (∀ name other rect otherRect, placed.lookup name = some rect →
        placed.lookup other = some otherRect → rect.contains x y = true →
          otherRect.contains x y = true → name = other) ∧
      ∀ row column, OnTrack columnSizes column x → OnTrack rowSizes row y →
        (tokenize rows).word? (row, column) = some placeholder →
          ∀ name rect, placed.lookup name = some rect → rect.contains x y = false := by
  intro placed columnSizes rowSizes
  have hplan := describes_of_compile hcompile
  have hcolumns : ∀ size ∈ columnSizes, 0 ≤ size := resolve_nonneg _ _ _
  have hrows : ∀ size ∈ rowSizes, 0 ≤ size := resolve_nonneg _ _ _
  refine ⟨fun name hname => ?_, fun name other rect otherRect hrect hotherRect hhit hotherHit => ?_,
    fun row column hcolumn hrow hfree name rect hrect => ?_⟩
  · obtain ⟨cell, hcell, rfl⟩ := List.mem_map.mp (hplan.mem_names.mpr hname)
    refine ⟨_, (lookup_layOut_eq_some_iff hplan.nodup_names).mpr ⟨cell, hcell, rfl, rfl⟩, ?_⟩
    exact contains_iff_exists_word? hplan hcell hcolumns hrows
  · obtain ⟨a, ha, rfl, rfl⟩ := (lookup_layOut_eq_some_iff hplan.nodup_names).mp hrect
    obtain ⟨b, hb, rfl, rfl⟩ := (lookup_layOut_eq_some_iff hplan.nodup_names).mp hotherRect
    obtain ⟨row, column, hcolumn, hrow, hword⟩ :=
      (contains_iff_exists_word? hplan ha hcolumns hrows).mp hhit
    have hotherWord := word?_of_contains hplan hb hcolumns hrows hotherHit hcolumn hrow
    exact Option.some.inj (hword.symm.trans hotherWord)
  · obtain ⟨cell, hcell, rfl, rfl⟩ := (lookup_layOut_eq_some_iff hplan.nodup_names).mp hrect
    rw [Bool.eq_false_iff]
    intro hhit
    have hword := word?_of_contains hplan hcell hcolumns hrows hhit hcolumn hrow
    exact (hplan.names_of_mem hcell).1 (Option.some.inj (hword.symm.trans hfree))

/-- A region whose first column is asked to be of negative size, beside one with a free position. -/
theorem contains_layOut_iff_negative :
    compile ["a a b", "a a ."] = .ok ⟨2, 3, [⟨"a", 0, 0, 2, 2⟩, ⟨"b", 0, 2, 1, 1⟩]⟩ ∧
      (tokenize ["a a b", "a a ."]).Names "a" ∧
        ∃ rect, (layOut ⟨2, 3, [⟨"a", 0, 0, 2, 2⟩, ⟨"b", 0, 2, 1, 1⟩]⟩ [.fixed (-5), .flex 2] []
            (300 : ℚ) 200).lookup "a" = some rect ∧
          (rect.contains 100 50 = true ↔ ∃ row column,
            OnTrack (resolve [.fixed (-5), .flex 2] 300 3) column 100 ∧
              OnTrack (resolve [] 200 2) row 50 ∧
                (tokenize ["a a b", "a a ."]).word? (row, column) = some "a") := by
  have hcompile : compile ["a a b", "a a ."] =
      .ok ⟨2, 3, [⟨"a", 0, 0, 2, 2⟩, ⟨"b", 0, 2, 1, 1⟩]⟩ := by decide +kernel
  have hname : (tokenize ["a a b", "a a ."]).Names "a" := by decide +kernel
  obtain ⟨hhit, -, -⟩ := contains_layOut_iff hcompile [.fixed (-5), .flex 2] [] 300 200 100 50
  exact ⟨hcompile, hname, hhit "a" hname⟩

end RegionGrid
