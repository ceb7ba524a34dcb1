import RegionGrid.Proofs.Template.Drawing
import Mathlib.Data.List.Sort

/-!
# Reading order

The cells of a plan are listed in no particular order, and yet there is one way to read them: two cells of
a well-formed plan never start at the same position. So plans that list the same cells are read alike, and
whatever moves the cells about without changing which of two starts first moves their reading order along.
In a grid of words a region is first read where its cell starts, so the order in which names are first read is
that of the cells.
-/

namespace RegionGrid

namespace Cell

variable {a b c : Cell}

theorem startsBefore_iff :
    startsBefore a b = true ↔ a.row < b.row ∨ a.row = b.row ∧ a.column ≤ b.column := by
  simp [startsBefore]

theorem startsBefore_trans (hab : startsBefore a b = true) (hbc : startsBefore b c = true) :
    startsBefore a c = true := by
  rw [startsBefore_iff] at *
  omega

theorem startsBefore_total (a b : Cell) : (startsBefore a b || startsBefore b a) = true := by
  rw [Bool.or_eq_true, startsBefore_iff, startsBefore_iff]
  omega

theorem start_eq_of_startsBefore (hab : startsBefore a b = true) (hba : startsBefore b a = true) :
    a.row = b.row ∧ a.column = b.column := by
  rw [startsBefore_iff] at hab hba
  omega

end Cell

namespace Plan

variable {plan other : Plan}

theorem WellFormed.eq_of_start_eq (hplan : plan.WellFormed) {a b : Cell} (ha : a ∈ plan.cells)
    (hb : b ∈ plan.cells) (hstart : a.row = b.row ∧ a.column = b.column) : a = b := by
  obtain ⟨harows, hacolumns⟩ := hplan.spans_pos a ha
  obtain ⟨hbrows, hbcolumns⟩ := hplan.spans_pos b hb
  have hfirst := Cell.first_mem_positions harows hacolumns
  have hother := Cell.first_mem_positions hbrows hbcolumns
  rw [← hstart.1, ← hstart.2] at hother
  exact hplan.eq_of_mem_positions ha hb hfirst hother

theorem inReadingOrder_sorted (plan : Plan) :
    plan.inReadingOrder.Pairwise (Cell.startsBefore · ·) :=
  @List.pairwise_mergeSort Cell Cell.startsBefore (fun _ _ _ => Cell.startsBefore_trans)
    Cell.startsBefore_total _

theorem inReadingOrder_perm (plan : Plan) : plan.inReadingOrder.Perm plan.cells := List.mergeSort_perm _ _

/-- How a plan lists its cells does not matter for reading them. -/
theorem WellFormed.inReadingOrder_eq (hplan : plan.WellFormed) (hcells : other.cells.Perm plan.cells) :
    other.inReadingOrder = plan.inReadingOrder := by
  have hperm : other.inReadingOrder.Perm plan.inReadingOrder :=
    (other.inReadingOrder_perm.trans hcells).trans plan.inReadingOrder_perm.symm
  refine hperm.eq_of_pairwise (fun a b ha hb hab hba => ?_) other.inReadingOrder_sorted
    plan.inReadingOrder_sorted
  have ha : a ∈ plan.cells := hcells.subset (other.inReadingOrder_perm.subset ha)
  have hb : b ∈ plan.cells := plan.inReadingOrder_perm.subset hb
  exact hplan.eq_of_start_eq ha hb (Cell.start_eq_of_startsBefore hab hba)

/-- Cells that are changed, but still start in the same order, are still read in the same order. -/
theorem WellFormed.inReadingOrder_map (hother : other.WellFormed) {change : Cell → Cell}
    (hcells : other.cells.Perm (plan.cells.map change))
    (hstart : ∀ a b, (change a).startsBefore (change b) = a.startsBefore b) :
    other.inReadingOrder = plan.inReadingOrder.map change := by
  let changed : Plan := { other with cells := plan.cells.map change }
  have hlisted : changed.inReadingOrder = other.inReadingOrder := hother.inReadingOrder_eq hcells.symm
  rw [← hlisted, inReadingOrder, inReadingOrder, List.map_mergeSort]
  exact fun a _ b _ => (hstart a b).symm

end Plan

/-! ### Regions in the order in which they are read -/

namespace TokenGrid

variable {grid : TokenGrid} {cells : List Cell} {a b : Cell}

theorem HasRegion.readBefore_iff (ha : grid.HasRegion a) (hb : grid.HasRegion b) :
    grid.ReadBefore a.name b.name ↔ Before (a.row, a.column) (b.row, b.column) := by
  constructor
  · intro h
    obtain ⟨position, hword, hlater⟩ := h
    have hbefore := hlater _ hb.word?_start
    rw [ha.word?_iff, Cell.mem_positions] at hword
    rw [before_iff] at hbefore ⊢
    omega
  · intro hbefore
    refine ⟨_, ha.word?_start, fun later hword => ?_⟩
    rw [hb.word?_iff, Cell.mem_positions] at hword
    rw [before_iff] at hbefore ⊢
    omega

/-- Regions that are listed by where they start have their names in the order in which these are first read. -/
theorem names_eq_regionNames (hregions : ∀ cell ∈ cells, grid.HasRegion cell)
    (hnames : ∀ name, name ∈ cells.map Cell.name ↔ grid.Names name)
    (hstarts : cells.Pairwise fun a b => Before (a.row, a.column) (b.row, b.column)) :
    cells.map Cell.name = grid.regionNames := by
  apply eq_regionNames hnames
  rw [List.pairwise_map]
  exact hstarts.imp_of_mem fun ha hb hbefore =>
    ((hregions _ ha).readBefore_iff (hregions _ hb)).mpr hbefore

end TokenGrid

namespace Plan.Describes

variable {plan : Plan} {grid : TokenGrid} (hplan : plan.Describes grid)

include hplan

theorem starts_sorted : plan.cells.Pairwise fun a b => Before (a.row, a.column) (b.row, b.column) := by
  have hnames : plan.names.Pairwise grid.ReadBefore := hplan.names ▸ TokenGrid.regionNames_sorted grid
  exact (List.pairwise_map.mp hnames).imp_of_mem fun ha hb hbefore =>
    ((hplan.regions _ ha).readBefore_iff (hplan.regions _ hb)).mp hbefore

theorem inReadingOrder_eq : plan.inReadingOrder = plan.cells := by
  apply List.mergeSort_of_pairwise
  apply hplan.starts_sorted.imp
  intro a b hbefore
  rw [before_iff] at hbefore
  rw [Cell.startsBefore_iff]
  omega

end Plan.Describes

end RegionGrid
