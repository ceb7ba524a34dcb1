import RegionGrid.Proofs.Placement.HitTest
import RegionGrid.Proofs.Template.ReadingOrder
import RegionGrid.Proofs.Template.Reshape

/-!
# Splitting tracks

A row or a column of a template can be written twice, with its size cut in two. Every edge of the old
tracks is then still an edge, only the edges behind the cut have other numbers, and what was between two
edges still is. Main statement: the split template is valid, and its regions are listed and placed as
before.

What happens to one axis is told by a `Cut`: which edge each old edge becomes, and which old track each
new one is a part of. The two determine each other, and the axis that is not cut has the trivial cut.
-/

namespace RegionGrid

/-- How the tracks of an axis are cut: the new number of each edge, and the old track of each part. -/
structure Cut where
  edge : Nat → Nat
  track : Nat → Nat
  edge_le_iff : ∀ e t, edge e ≤ t ↔ e ≤ track t
  track_edge : ∀ e, track (edge e) = e

namespace Cut

/-- No track is cut. -/
def trivial : Cut := ⟨id, id, fun _ _ => Iff.rfl, fun _ => rfl⟩

/-- One track is cut in two. -/
def ofTrack (i : Nat) : Cut where
  edge e := if e ≤ i then e else e + 1
  track t := if t ≤ i then t else t - 1
  edge_le_iff e t := by split <;> split <;> omega
  track_edge e := by
    by_cases he : e ≤ i
    · simp only [he, if_true]
    · have hnext : ¬ e + 1 ≤ i := by omega
      simp only [he, hnext, if_false, Nat.add_sub_cancel]

variable (cut rows columns : Cut)

theorem edge_le_edge_iff {a b : Nat} : cut.edge a ≤ cut.edge b ↔ a ≤ b := by
  rw [cut.edge_le_iff, cut.track_edge]

theorem edge_inj {a b : Nat} : cut.edge a = cut.edge b ↔ a = b := by
  simp only [Nat.le_antisymm_iff, edge_le_edge_iff]

theorem lt_edge_iff {t e : Nat} : t < cut.edge e ↔ cut.track t < e := by
  rw [← not_le, ← not_le, cut.edge_le_iff]

/-- The cell that lies between the same edges. -/
def cell (c : Cell) : Cell where
  name := c.name
  row := rows.edge c.row
  column := columns.edge c.column
  rowSpan := rows.edge (c.row + c.rowSpan) - rows.edge c.row
  columnSpan := columns.edge (c.column + c.columnSpan) - columns.edge c.column

theorem edge_add_span (start span : Nat) :
    cut.edge start + (cut.edge (start + span) - cut.edge start) = cut.edge (start + span) :=
  Nat.add_sub_cancel' (cut.edge_le_edge_iff.mpr (Nat.le_add_right start span))

def reshaping : Reshaping where
  origin position := (rows.track position.1, columns.track position.2)
  cell := cell rows columns
  surjective position := ⟨(rows.edge position.1, columns.edge position.2), by simp only [track_edge]⟩
  name_cell _ := rfl
  mem_positions c position := by
    simp only [Cell.mem_positions, cell, edge_add_span, edge_le_iff, lt_edge_iff]

theorem startsBefore_cell (a b : Cell) :
    (cell rows columns a).startsBefore (cell rows columns b) = a.startsBefore b := by
  rw [Bool.eq_iff_iff, Cell.startsBefore_iff, Cell.startsBefore_iff]
  simp only [cell, ← not_le, edge_le_edge_iff, edge_inj]

/-! ### Sizes of cut tracks -/

/-- The new sizes have the same sums up to the old edges. -/
def Keeps (finer sizes : List ℚ) : Prop :=
  ∀ e, (finer.take (cut.edge e)).sum = (sizes.take e).sum

variable {cut rows columns} {finer sizes finerRows rowSizes finerColumns columnSizes : List ℚ}

theorem keeps_trivial (sizes : List ℚ) : trivial.Keeps sizes sizes := fun _ => rfl

theorem Keeps.spanExtent (hkeeps : cut.Keeps finer sizes) (start span : Nat) :
    spanExtent finer (cut.edge start) (cut.edge (start + span) - cut.edge start) =
      spanExtent sizes start span := by
  simp only [RegionGrid.spanExtent, edge_add_span, edgeBefore_eq_sum, hkeeps _]

theorem placeCell_cell (hrows : rows.Keeps finerRows rowSizes)
    (hcolumns : columns.Keeps finerColumns columnSizes) (c : Cell) :
    placeCell (cell rows columns c) finerColumns finerRows = placeCell c columnSizes rowSizes := by
  simp only [placeCell, cell, hrows.spanExtent, hcolumns.spanExtent]

theorem placeCells_eq {plan finerPlan : Plan} (hfiner : finerPlan.WellFormed)
    (hcells : finerPlan.cells.Perm (plan.cells.map (cell rows columns)))
    (hrows : rows.Keeps finerRows rowSizes) (hcolumns : columns.Keeps finerColumns columnSizes)
    (names : Option (List String)) :
    placeCells finerPlan finerColumns finerRows names = placeCells plan columnSizes rowSizes names := by
  rw [placeCells, placeCells, hfiner.inReadingOrder_map hcells (startsBefore_cell rows columns),
    List.filter_map, List.map_map]
  exact List.map_congr_left fun c _ => congrArg (Prod.mk c.name) (placeCell_cell hrows hcolumns c)

end Cut

/-! ### Writing a track twice -/

section Doubled

variable {α : Type}

/-- The list with a second copy of the item at an index right after it. -/
def doubled (items : List α) (i : Nat) : List α := items.take (i + 1) ++ items.drop i

/-- The list of sizes with two sizes in the place of the one at an index. -/
def splitSize (sizes : List α) (i : Nat) (first second : α) : List α :=
  sizes.take i ++ first :: second :: sizes.drop (i + 1)

variable {items : List α} {i : Nat}

theorem length_doubled (hi : i < items.length) : (doubled items i).length = items.length + 1 := by
  rw [doubled, List.length_append, List.length_take, List.length_drop]
  omega

theorem getElem?_doubled (hi : i < items.length) (k : Nat) :
    (doubled items i)[k]? = items[(Cut.ofTrack i).track k]? := by
  have hlength : (items.take (i + 1)).length = i + 1 := List.length_take_of_le hi
  rw [doubled]
  by_cases hk : k ≤ i
  · rw [List.getElem?_append_left (by omega), List.getElem?_take_of_lt (by omega)]
    simp only [Cut.ofTrack, hk, if_true]
  · have hindex : i + (k - (i + 1)) = k - 1 := by omega
    rw [List.getElem?_append_right (by omega), hlength, List.getElem?_drop, hindex]
    simp only [Cut.ofTrack, hk, if_false]

theorem head?_doubled (items : List α) (i : Nat) : (doubled items i).head? = items.head? := by
  cases items with
  | nil => simp [doubled]
  | cons item items => rfl

theorem mem_doubled {item : α} : item ∈ doubled items i ↔ item ∈ items := by
  rw [doubled, List.mem_append]
  constructor
  · intro h
    rcases h with h | h
    · exact List.mem_of_mem_take h
    · exact List.mem_of_mem_drop h
  · intro h
    rw [← List.take_append_drop i items, List.mem_append] at h
    rcases h with h | h
    · exact .inl (List.take_subset_take_left items (Nat.le_succ i) h)
    · exact .inr h

theorem map_doubled {β : Type} (f : α → β) (items : List α) (i : Nat) :
    (doubled items i).map f = doubled (items.map f) i := by
  simp only [doubled, List.map_append, List.map_take, List.map_drop]

end Doubled

theorem splitSize_append (front back : List ℚ) (size first second : ℚ) :
    splitSize (front ++ size :: back) front.length first second = front ++ first :: second :: back := by
  simp [splitSize]

theorem keeps_splitSize {sizes : List ℚ} {i : Nat} {first second : ℚ}
    (hsize : sizes[i]? = some (first + second)) :
    (Cut.ofTrack i).Keeps (splitSize sizes i first second) sizes := by
  obtain ⟨hi, hget⟩ := List.getElem?_eq_some_iff.mp hsize
  obtain ⟨front, back, rfl, rfl⟩ : ∃ front back : List ℚ,
      sizes = front ++ (first + second) :: back ∧ i = front.length := by
    refine ⟨sizes.take i, sizes.drop (i + 1), ?_, (List.length_take_of_le hi.le).symm⟩
    rw [← hget, List.getElem_cons_drop, List.take_append_drop]
  rw [splitSize_append]
  intro e
  by_cases he : e ≤ front.length
  · simp only [Cut.ofTrack, he, if_true, List.take_append_of_le_length]
  · obtain ⟨k, rfl⟩ : ∃ k, e = front.length + (k + 1) := ⟨e - front.length - 1, by omega⟩
    simp only [Cut.ofTrack, he, if_false]
    rw [Nat.add_assoc, List.take_length_add_append, List.take_length_add_append]
    simp [add_assoc]

/-! ### Templates with a track written twice -/

section Templates

variable {rows finer : List String} {plan : Plan} {i : Nat}

theorem gives_doubled_rows {grid : TokenGrid} (hi : i < grid.length) :
    (Cut.reshaping (.ofTrack i) .trivial).Gives grid (doubled grid i) := by
  intro position
  rw [TokenGrid.word?, getElem?_doubled hi]
  rfl

theorem gives_doubled_columns {grid : TokenGrid} (hi : ∀ row ∈ grid, i < row.length) :
    (Cut.reshaping .trivial (.ofTrack i)).Gives grid (grid.map (doubled · i)) := by
  intro position
  rw [TokenGrid.word?, TokenGrid.word?, List.getElem?_map]
  change _ = grid[position.1]?.bind (·[(Cut.ofTrack i).track position.2]?)
  cases hrow : grid[position.1]? with
  | none => rfl
  | some row => exact getElem?_doubled (hi row (List.mem_of_getElem? hrow)) position.2

/-- A template that is cut along the edges of another one places the same regions at the same places. -/
theorem exists_compile_cut {rowCut columnCut : Cut} (hcompile : compile rows = .ok plan)
    (hgives : (Cut.reshaping rowCut columnCut).Gives (tokenize rows) (tokenize finer))
    (hnamed : ∃ word ∈ (tokenize finer).headD [], word ≠ placeholder)
    (heven : ∀ line ∈ tokenize finer, line.length = ((tokenize finer).headD []).length) :
    ∃ finerPlan, compile finer = .ok finerPlan ∧
      ∀ {finerRows rowSizes finerColumns columnSizes : List ℚ}, rowCut.Keeps finerRows rowSizes →
        columnCut.Keeps finerColumns columnSizes → ∀ names,
          placeCells finerPlan finerColumns finerRows names =
            placeCells plan columnSizes rowSizes names := by
  obtain ⟨cells, hcells, hfiner⟩ :=
    Reshaping.exists_perm_compileTokens hgives (describes_of_compile hcompile) hnamed heven
  refine ⟨_, hfiner, fun hrows hcolumns names => ?_⟩
  exact Cut.placeCells_eq (describes_of_compile hfiner).wellFormed hcells hrows hcolumns names

theorem headD_doubled (grid : TokenGrid) (i : Nat) : (doubled grid i).headD [] = grid.headD [] := by
  simp only [List.headD_eq_head?_getD, head?_doubled]

theorem headD_map_doubled (grid : TokenGrid) (i : Nat) :
    (grid.map (doubled · i)).headD [] = doubled (grid.headD []) i := by
  cases grid with
  | nil => simp [doubled]
  | cons row rows => rfl

theorem exists_compile_doubled_rows (hcompile : compile rows = .ok plan) (hi : i < plan.rowCount) :
    ∃ finerPlan, compile (doubled rows i) = .ok finerPlan ∧
      ∀ {finerRows rowSizes columnSizes : List ℚ}, (Cut.ofTrack i).Keeps finerRows rowSizes → ∀ names,
        placeCells finerPlan columnSizes finerRows names = placeCells plan columnSizes rowSizes names := by
  have hplan := describes_of_compile hcompile
  rw [hplan.rowCount] at hi
  have htokens : tokenize (doubled rows i) = doubled (tokenize rows) i := map_doubled words rows i
  have hgives : (Cut.reshaping (.ofTrack i) .trivial).Gives (tokenize rows) (tokenize (doubled rows i)) :=
    htokens ▸ gives_doubled_rows hi
  have hnamed : ∃ word ∈ (tokenize (doubled rows i)).headD [], word ≠ placeholder := by
    rw [htokens, headD_doubled]
    exact named_of_compile hcompile (List.ne_nil_of_length_pos (by omega))
  have heven : ∀ line ∈ tokenize (doubled rows i),
      line.length = ((tokenize (doubled rows i)).headD []).length := by
    intro line hline
    rw [htokens, mem_doubled] at hline
    rw [htokens, headD_doubled, hplan.even line hline, hplan.columnCount]
  obtain ⟨finerPlan, hfiner, hplaced⟩ := exists_compile_cut hcompile hgives hnamed heven
  exact ⟨finerPlan, hfiner, fun hrows names => hplaced hrows (Cut.keeps_trivial _) names⟩

theorem exists_compile_doubled_columns (hcompile : compile rows = .ok plan) (hi : i < plan.columnCount)
    (htokens : tokenize finer = (tokenize rows).map (doubled · i)) :
    ∃ finerPlan, compile finer = .ok finerPlan ∧
      ∀ {finerColumns columnSizes rowSizes : List ℚ}, (Cut.ofTrack i).Keeps finerColumns columnSizes →
        ∀ names, placeCells finerPlan finerColumns rowSizes names =
          placeCells plan columnSizes rowSizes names := by
  have hplan := describes_of_compile hcompile
  have hwide : ∀ line ∈ tokenize rows, i < line.length := fun line hline => hplan.even line hline ▸ hi
  rw [hplan.columnCount] at hi
  have hgives : (Cut.reshaping .trivial (.ofTrack i)).Gives (tokenize rows) (tokenize finer) :=
    htokens ▸ gives_doubled_columns hwide
  have hnamed : ∃ word ∈ (tokenize finer).headD [], word ≠ placeholder := by
    have hne : tokenize rows ≠ [] := by
      intro hnil
      rw [hnil] at hi
      cases hi
    rw [htokens, headD_map_doubled]
    simpa only [mem_doubled] using named_of_compile hcompile hne
  have heven : ∀ line ∈ tokenize finer, line.length = ((tokenize finer).headD []).length := by
    intro line hline
    rw [htokens] at hline
    obtain ⟨source, hsource, rfl⟩ := List.mem_map.mp hline
    rw [htokens, headD_map_doubled, length_doubled (hwide source hsource), length_doubled hi,
      hplan.even source hsource, hplan.columnCount]
  obtain ⟨finerPlan, hfiner, hplaced⟩ := exists_compile_cut hcompile hgives hnamed heven
  exact ⟨finerPlan, hfiner, fun hcolumns names => hplaced (Cut.keeps_trivial _) hcolumns names⟩

end Templates

/--
A row that is written twice, and a column whose words are written twice in every row, leave a template
valid. With the size of the track cut in two, the same regions are placed at the same places in the same
order.
-/
theorem placeCells_split {rows : List String} {plan : Plan} (hcompile : compile rows = .ok plan)
    (columnSizes rowSizes : List ℚ) (first second : ℚ) (names : Option (List String)) :
    (∀ row < plan.rowCount, rowSizes[row]? = some (first + second) →
        ∃ finer, compile (doubled rows row) = .ok finer ∧
          placeCells finer columnSizes (splitSize rowSizes row first second) names =
            placeCells plan columnSizes rowSizes names) ∧
      ∀ column < plan.columnCount, columnSizes[column]? = some (first + second) →
        (∃ wider, tokenize wider = (tokenize rows).map (doubled · column)) ∧
          ∀ wider, tokenize wider = (tokenize rows).map (doubled · column) →
            ∃ finer, compile wider = .ok finer ∧
              placeCells finer (splitSize columnSizes column first second) rowSizes names =
                placeCells plan columnSizes rowSizes names := by
  refine ⟨fun row hrow hsize => ?_, fun column hcolumn hsize => ⟨?_, fun wider htokens => ?_⟩⟩
  · obtain ⟨finer, hfiner, hplaced⟩ := exists_compile_doubled_rows hcompile hrow
    exact ⟨finer, hfiner, hplaced (keeps_splitSize hsize) names⟩
  · refine ⟨_, tokenize_rows fun line hline word hword => ?_⟩
    obtain ⟨source, hsource, rfl⟩ := List.mem_map.mp hline
    exact isWord_of_mem_tokenize hsource (mem_doubled.mp hword)
  · obtain ⟨finer, hfiner, hplaced⟩ := exists_compile_doubled_columns hcompile hcolumn htokens
    exact ⟨finer, hfiner, hplaced (keeps_splitSize hsize) names⟩

/-- A row that a region ends with and a column that one starts in, each with a part of negative size. -/
theorem placeCells_split_negative :
    compile ["a b", "a c"] =
        .ok ⟨2, 2, [⟨"a", 0, 0, 2, 1⟩, ⟨"b", 0, 1, 1, 1⟩, ⟨"c", 1, 1, 1, 1⟩]⟩ ∧
      [(5 : ℚ), 7][1]? = some (10 + (-3 : ℚ)) ∧ [(7 : ℚ), 20][0]? = some (10 + (-3 : ℚ)) ∧
        (∃ finer, compile ["a b", "a c", "a c"] = .ok finer ∧
          placeCells finer [(7 : ℚ), 20] [5, 10, -3] =
            placeCells ⟨2, 2, [⟨"a", 0, 0, 2, 1⟩, ⟨"b", 0, 1, 1, 1⟩, ⟨"c", 1, 1, 1, 1⟩]⟩ [7, 20] [5, 7]) ∧
        ∃ finer, compile ["a a b", "a a c"] = .ok finer ∧
          placeCells finer [(10 : ℚ), -3, 20] [5, 7] =
            placeCells ⟨2, 2, [⟨"a", 0, 0, 2, 1⟩, ⟨"b", 0, 1, 1, 1⟩, ⟨"c", 1, 1, 1, 1⟩]⟩ [7, 20] [5, 7] := by
  have hcompile : compile ["a b", "a c"] =
      .ok ⟨2, 2, [⟨"a", 0, 0, 2, 1⟩, ⟨"b", 0, 1, 1, 1⟩, ⟨"c", 1, 1, 1, 1⟩]⟩ := by decide +kernel
  have hrow : [(5 : ℚ), 7][1]? = some (10 + (-3 : ℚ)) := by decide +kernel
  have hcolumn : [(7 : ℚ), 20][0]? = some (10 + (-3 : ℚ)) := by decide +kernel
  have htokens : tokenize ["a a b", "a a c"] = (tokenize ["a b", "a c"]).map (doubled · 0) := by
    decide +kernel
  obtain ⟨hrows, hcolumns⟩ := placeCells_split hcompile [7, 20] [5, 7] 10 (-3) none
  exact ⟨hcompile, hrow, hcolumn, hrows 1 (by decide) hrow, (hcolumns 0 (by decide) hcolumn).2 _ htokens⟩

end RegionGrid
