import RegionGrid.Proofs.Placement.HitTest
import RegionGrid.Proofs.Template.ReadingOrder

/-!
# Listing placed regions

In which order the regions of a template are placed, and what asking for some of them changes. Regions come by
where their cells start, and a cell starts where its name is first read, so they come as their names are read;
asking for some of them leaves the others out and nothing else. Main statement: the keys of the result are the
names that are asked for, each once and in the order in which they are first read, with the rectangles that
they have among all the others.
-/

namespace RegionGrid

variable {α : Type} [Zero α] [Add α] [Sub α] {plan : Plan} {grid : TokenGrid}
  (columnSizes rowSizes : List α) (names : Option (List String))

theorem placeCells_eq_filter (plan : Plan) :
    placeCells plan columnSizes rowSizes names =
      (placeCells plan columnSizes rowSizes).filter fun region => isWanted names region.1 := by
  rw [placeCells_eq_map, placeCells, List.filter_map]
  rfl

theorem Plan.Describes.keys_placeCells (hplan : plan.Describes grid) :
    (placeCells plan columnSizes rowSizes names).map Prod.fst = grid.regionNames.filter (isWanted names) := by
  rw [placeCells, hplan.inReadingOrder_eq, ← hplan.names, Plan.names, List.filter_map, List.map_map]
  rfl

theorem Plan.WellFormed.placeCells_eq {listed : Plan} (hplan : plan.WellFormed)
    (hcells : listed.cells.Perm plan.cells) :
    placeCells listed columnSizes rowSizes names = placeCells plan columnSizes rowSizes names := by
  rw [placeCells, placeCells, hplan.inReadingOrder_eq hcells]

/--
Regions are listed in the order in which their names are first read, and those alone that are asked for. No name is
given twice, so the list is the mapping that it makes; a region lies where it does among all regions; and it does not
matter how the plan lists its cells.
-/
theorem placeCells_lists_names {rows : List String} (hcompile : compile rows = .ok plan) :
    let placed := placeCells plan columnSizes rowSizes names
    placed.map Prod.fst =
        (((tokenize rows).flatten.filter (· ≠ placeholder)).eraseDups).filter (isWanted names) ∧
      (placed.map Prod.fst).Nodup ∧ Assoc.ofList placed = placed ∧
      placed = (placeCells plan columnSizes rowSizes).filter (fun region => isWanted names region.1) ∧
      ∀ listed : Plan, listed.cells.Perm plan.cells →
        placeCells listed columnSizes rowSizes names = placed := by
  intro placed
  have hplan := describes_of_compile hcompile
  have hkeys : (placed.map Prod.fst).Nodup := nodup_keys_placeCells hplan.nodup_names
  refine ⟨?_, hkeys, ofList_eq_self hkeys, placeCells_eq_filter columnSizes rowSizes names plan,
    fun listed hcells => hplan.wellFormed.placeCells_eq columnSizes rowSizes names hcells⟩
  rw [hplan.keys_placeCells, TokenGrid.regionNames_eq_eraseDups]

/-- Names that are asked for in another order, one of them twice and one that the template does not have. -/
theorem placeCells_lists_names_some :
    compile ["b b a", "b b c"] = .ok ⟨2, 3, [⟨"b", 0, 0, 2, 2⟩, ⟨"a", 0, 2, 1, 1⟩, ⟨"c", 1, 2, 1, 1⟩]⟩ ∧
      List.Perm [⟨"c", 1, 2, 1, 1⟩, ⟨"a", 0, 2, 1, 1⟩, ⟨"b", 0, 0, 2, 2⟩]
          [(⟨"b", 0, 0, 2, 2⟩ : Cell), ⟨"a", 0, 2, 1, 1⟩, ⟨"c", 1, 2, 1, 1⟩] ∧
        (placeCells ⟨2, 3, [⟨"c", 1, 2, 1, 1⟩, ⟨"a", 0, 2, 1, 1⟩, ⟨"b", 0, 0, 2, 2⟩]⟩ [(5 : ℚ), 6, 7] [8, 9]
          (some ["c", "d", "b", "c"])).map Prod.fst = ["b", "c"] := by
  have hcompile : compile ["b b a", "b b c"] =
      .ok ⟨2, 3, [⟨"b", 0, 0, 2, 2⟩, ⟨"a", 0, 2, 1, 1⟩, ⟨"c", 1, 2, 1, 1⟩]⟩ := by decide +kernel
  have hcells : List.Perm [⟨"c", 1, 2, 1, 1⟩, ⟨"a", 0, 2, 1, 1⟩, ⟨"b", 0, 0, 2, 2⟩]
      [(⟨"b", 0, 0, 2, 2⟩ : Cell), ⟨"a", 0, 2, 1, 1⟩, ⟨"c", 1, 2, 1, 1⟩] := by decide +kernel
  obtain ⟨hkeys, -, -, -, hlisted⟩ :=
    placeCells_lists_names [(5 : ℚ), 6, 7] [8, 9] (some ["c", "d", "b", "c"]) hcompile
  refine ⟨hcompile, hcells, ?_⟩
  rw [hlisted _ hcells, hkeys]
  decide +kernel

end RegionGrid
