import RegionGrid.Proofs.Template.Drawing
import RegionGrid.Proofs.Template.NulFree

/-!
# Renamed templates

A template means the partition that its words make of the grid: what the words are does not matter, as long
as different ones stay different and free positions stay free. Every notion of the theory of templates is
about which positions have the same word, so it says the same of the grid with other words. Main statement: a
renamed template has the renamed plan, or is refused with the renamed error.
-/

namespace RegionGrid

/-! ### Outcomes with other names -/

def Cell.rename (f : String → String) (cell : Cell) : Cell := { cell with name := f cell.name }

def Plan.rename (f : String → String) (plan : Plan) : Plan :=
  { plan with cells := plan.cells.map (Cell.rename f) }

def TemplateError.rename (f : String → String) : TemplateError → TemplateError
  | nothingNamed => nothingNamed
  | raggedRow row actual expected => raggedRow row actual expected
  | brokenRegion name row column found => brokenRegion (f name) row column (f found)
  | wrongArea name area count => wrongArea (f name) area count

theorem Plan.names_rename (f : String → String) (plan : Plan) : (plan.rename f).names = plan.names.map f := by
  simp only [names, rename, List.map_map]
  rfl

/-! ### Grids with other words -/

namespace TokenGrid

variable {grid : TokenGrid} {f : String → String} {name other : String} {position : Nat × Nat}

def rename (f : String → String) (grid : TokenGrid) : TokenGrid := grid.map (·.map f)

/--
New words for those of a grid: different words stay different, exactly the free positions are free, and the new
words can be written in a template without NUL characters.
-/
@[mk_iff]
structure Renames (grid : TokenGrid) (f : String → String) : Prop where
  injective : ∀ word ∈ grid.flatten, ∀ other ∈ grid.flatten, f word = f other → word = other
  free_iff : ∀ word ∈ grid.flatten, f word = placeholder ↔ word = placeholder
  isWord : ∀ word ∈ grid.flatten, IsWord (f word)
  isNulFree : ∀ word ∈ grid.flatten, IsNulFree (f word)

instance (grid : TokenGrid) (f : String → String) : Decidable (grid.Renames f) :=
  decidable_of_iff' _ (renames_iff grid f)

theorem word?_rename : (grid.rename f).word? position = (grid.word? position).map f := by
  rw [word?, word?, rename, List.getElem?_map]
  cases grid[position.1]? with
  | none => rfl
  | some row => exact List.getElem?_map ..

theorem headD_rename : (grid.rename f).headD [] = (grid.headD []).map f := by
  cases grid with
  | nil => rfl
  | cons row rest => rfl

theorem mem_flatten_of_mem_headD {word : String} (hword : word ∈ grid.headD []) : word ∈ grid.flatten := by
  cases grid with
  | nil => cases hword
  | cons row rest => exact List.mem_flatten_of_mem List.mem_cons_self hword

theorem length_of_mem_rename {count : Nat} (heven : ∀ row ∈ grid, row.length = count) :
    ∀ row ∈ grid.rename f, row.length = count := by
  intro row hrow
  obtain ⟨source, hsource, rfl⟩ := List.mem_map.mp hrow
  rw [List.length_map, heven source hsource]

theorem flatten_rename : (grid.rename f).flatten = grid.flatten.map f := List.map_flatten.symm

namespace Renames

variable (hf : grid.Renames f)

include hf

theorem word?_eq_some_iff (hname : name ∈ grid.flatten) :
    (grid.rename f).word? position = some (f name) ↔ grid.word? position = some name := by
  rw [word?_rename, Option.map_eq_some_iff]
  constructor
  · intro h
    obtain ⟨word, hword, hsame⟩ := h
    rw [hword, hf.injective word (mem_flatten_of_word? hword) name hname hsame]
  · exact fun hword => ⟨name, hword, rfl⟩

theorem occurrences_eq (hname : name ∈ grid.flatten) :
    (grid.rename f).occurrences (f name) = grid.occurrences name :=
  Set.ext fun _ => hf.word?_eq_some_iff hname

theorem names_iff : (grid.rename f).Names other ↔ ∃ name, grid.Names name ∧ f name = other := by
  simp only [TokenGrid.names_iff, ← mem_flatten_iff, flatten_rename, List.mem_map]
  constructor
  · intro h
    obtain ⟨hother, name, hname, rfl⟩ := h
    exact ⟨name, ⟨fun hfree => hother ((hf.free_iff name hname).mpr hfree), hname⟩, rfl⟩
  · intro h
    obtain ⟨name, ⟨hfree, hname⟩, rfl⟩ := h
    exact ⟨fun hother => hfree ((hf.free_iff name hname).mp hother), name, hname, rfl⟩

theorem readBefore_iff (hname : name ∈ grid.flatten) (hother : other ∈ grid.flatten) :
    (grid.rename f).ReadBefore (f name) (f other) ↔ grid.ReadBefore name other := by
  simp only [ReadBefore, hf.word?_eq_some_iff hname, hf.word?_eq_some_iff hother]

theorem fillsBox_iff (hname : name ∈ grid.flatten) :
    (grid.rename f).FillsBox (f name) ↔ grid.FillsBox name := by
  simp only [FillsBox, hf.occurrences_eq hname, hf.word?_eq_some_iff hname]

theorem regionNames_eq : (grid.rename f).regionNames = grid.regionNames.map f := by
  have hmem {name : String} (hname : name ∈ grid.regionNames) : name ∈ grid.flatten :=
    (mem_regionNames.mp hname).mem_flatten
  symm
  apply eq_regionNames
  · intro other
    simp only [hf.names_iff, List.mem_map, mem_regionNames]
  · rw [List.pairwise_map]
    exact (regionNames_sorted grid).imp_of_mem fun hname hother hbefore =>
      (hf.readBefore_iff (hmem hname) (hmem hother)).mpr hbefore

theorem hasRegion {cell : Cell} (hregion : grid.HasRegion cell) :
    (grid.rename f).HasRegion (cell.rename f) where
  rowSpan_pos := hregion.rowSpan_pos
  columnSpan_pos := hregion.columnSpan_pos
  word?_iff position := by
    have hname := mem_flatten_of_word? hregion.word?_start
    exact (hf.word?_eq_some_iff hname).trans (hregion.word?_iff position)

theorem describes {plan : Plan} (hplan : plan.Describes grid) :
    (plan.rename f).Describes (grid.rename f) where
  rowCount := hplan.rowCount.trans (List.length_map _).symm
  columnCount := by
    rw [headD_rename, List.length_map]
    exact hplan.columnCount
  even := length_of_mem_rename hplan.even
  names := by rw [Plan.names_rename, hplan.names, hf.regionNames_eq]
  regions := by
    intro cell hcell
    obtain ⟨old, hold, rfl⟩ := List.mem_map.mp hcell
    exact hf.hasRegion (hplan.regions old hold)

theorem exists_named_iff :
    (∃ word ∈ (grid.rename f).headD [], word ≠ placeholder) ↔ ∃ word ∈ grid.headD [], word ≠ placeholder := by
  simp only [headD_rename, List.mem_map]
  constructor
  · intro h
    obtain ⟨_, ⟨word, hword, rfl⟩, hnamed⟩ := h
    exact ⟨word, hword, fun hfree => hnamed ((hf.free_iff word (mem_flatten_of_mem_headD hword)).mpr hfree)⟩
  · intro h
    obtain ⟨word, hword, hnamed⟩ := h
    exact ⟨f word, ⟨word, hword, rfl⟩,
      fun hfree => hnamed ((hf.free_iff word (mem_flatten_of_mem_headD hword)).mp hfree)⟩

/-! ### Renamed faults -/

theorem firstBroken (hfirst : grid.FirstBroken name) : (grid.rename f).FirstBroken (f name) where
  names := hf.names_iff.mpr ⟨name, hfirst.names, rfl⟩
  broken hfills := hfirst.broken ((hf.fillsBox_iff hfirst.names.mem_flatten).mp hfills)
  before := by
    intro other hother hbroken hne
    obtain ⟨old, hold, rfl⟩ := hf.names_iff.mp hother
    rw [hf.fillsBox_iff hold.mem_flatten] at hbroken
    rw [hf.readBefore_iff hfirst.names.mem_flatten hold.mem_flatten]
    exact hfirst.before old hold hbroken fun heq => hne (congrArg f heq)

variable (hgrid : ∀ word ∈ grid.flatten, IsNulFree word)

include hgrid

theorem mismatches_eq (box : Box) (hname : name ∈ grid.flatten) :
    (grid.rename f).mismatches box (f name) = grid.mismatches box name := by
  have hrenamed : ∀ word ∈ (grid.rename f).flatten, IsNulFree word := by
    rw [flatten_rename, List.forall_mem_map]
    exact hf.isNulFree
  ext position
  rw [mem_mismatches_iff_of_isNulFree hrenamed (hf.isNulFree name hname),
    mem_mismatches_iff_of_isNulFree hgrid (hgrid name hname)]
  apply and_congr_right
  intro _
  constructor
  · intro h
    obtain ⟨_, hword, hne⟩ := h
    obtain ⟨found, hfound, rfl⟩ := Option.map_eq_some_iff.mp (word?_rename.symm.trans hword)
    exact ⟨found, hfound, fun heq => hne (congrArg f heq)⟩
  · intro h
    obtain ⟨found, hfound, hne⟩ := h
    have hmem := mem_flatten_of_word? hfound
    exact ⟨f found, (hf.word?_eq_some_iff hmem).mpr hfound, fun heq => hne (hf.injective _ hmem _ hname heq)⟩

theorem regionFault {e : TemplateError} {count : Nat} (heven : ∀ row ∈ grid, row.length = count)
    (hfirst : grid.FirstBroken name) (hfault : grid.RegionFault name e) :
    (grid.rename f).RegionFault (f name) (e.rename f) := by
  have hname := hfirst.names.mem_flatten
  cases hfault with
  | brokenRegion hbounds hmismatch hword =>
    rw [← hf.occurrences_eq hname] at hbounds
    rw [← hf.mismatches_eq hgrid _ hname] at hmismatch
    exact .brokenRegion hbounds hmismatch ((hf.word?_eq_some_iff (mem_flatten_of_word? hword)).mpr hword)
  | wrongArea hbounds halike =>
    have hfills := fillsBox_of_mismatches_eq_empty hgrid heven (hgrid name hname) hbounds halike
    exact absurd hfills hfirst.broken

theorem fault {e : TemplateError} (hfault : grid.Fault e) : (grid.rename f).Fault (e.rename f) := by
  have hwidth : ((grid.rename f).headD []).length = (grid.headD []).length := by
    rw [headD_rename, List.length_map]
  cases hfault with
  | nothingNamed hne hfree =>
    refine .nothingNamed (fun hnil => hne (List.map_eq_nil_iff.mp hnil)) ?_
    rw [headD_rename, List.forall_mem_map]
    exact fun word hword => (hf.free_iff word (mem_flatten_of_mem_headD hword)).mpr (hfree word hword)
  | @raggedRow row words hnamed hrow hragged hfirst =>
    have hrow : (grid.rename f)[row]? = some (words.map f) := by
      rw [rename, List.getElem?_map, hrow, Option.map_some]
    have hrenamed : (grid.rename f).Fault
        (.raggedRow row (words.map f).length ((grid.rename f).headD []).length) := by
      refine .raggedRow (hf.exists_named_iff.mpr hnamed) hrow ?_ fun earlier hearlier other hother => ?_
      · rwa [List.length_map, hwidth]
      · rw [rename, List.getElem?_map] at hother
        obtain ⟨source, hsource, rfl⟩ := Option.map_eq_some_iff.mp hother
        rw [List.length_map, hwidth, hfirst earlier hearlier source hsource]
    rwa [List.length_map, hwidth] at hrenamed
  | region hnamed heven hfirst hfault =>
    refine .region (hf.exists_named_iff.mpr hnamed) ?_ (hf.firstBroken hfirst)
      (hf.regionFault hgrid heven hfirst hfault)
    rw [hwidth]
    exact length_of_mem_rename heven

theorem compileTokens_eq :
    compileTokens (grid.rename f) =
      ((compileTokens grid).map (Plan.rename f)).mapError (TemplateError.rename f) := by
  cases hgridCompiled : compileTokens grid with
  | ok plan =>
    obtain ⟨hshape, hplan⟩ := compileTokens_eq_ok_iff.mp hgridCompiled
    refine compileTokens_eq_ok_iff.mpr ⟨hshape.imp (fun hnil => ?_) hf.exists_named_iff.mpr, hf.describes hplan⟩
    rw [hnil]
    rfl
  | error e => exact compileTokens_eq_error_iff.mpr (hf.fault hgrid (compileTokens_eq_error_iff.mp hgridCompiled))

end Renames

end TokenGrid

/--
A template without NUL characters whose words are renamed has the same outcome with the names renamed: its plan,
or the error that it is refused with. The renamed words can be written in rows, and it does not matter in which.
-/
theorem compile_rename {rows : List String} (hrows : ∀ row ∈ rows, IsNulFree row) {f : String → String}
    (hf : (tokenize rows).Renames f) :
    tokenize ((tokenize rows).rename f).rows = (tokenize rows).rename f ∧
      ∀ renamed, tokenize renamed = (tokenize rows).rename f →
        compile renamed = ((compile rows).map (Plan.rename f)).mapError (TemplateError.rename f) := by
  refine ⟨tokenize_rows fun line hline word hword => ?_, fun renamed htokens => ?_⟩
  · have hmem := List.mem_flatten_of_mem hline hword
    rw [TokenGrid.flatten_rename] at hmem
    obtain ⟨source, hsource, rfl⟩ := List.mem_map.mp hmem
    exact hf.isWord source hsource
  · rw [compile, htokens]
    exact hf.compileTokens_eq (isNulFree_of_mem_tokenize hrows)

/-- A name that becomes another one, in a template that is refused and in one that is not. -/
theorem compile_rename_moved :
    let f : String → String := fun word => if word = "nav" then "main" else if word = "main" then "a.b" else word
    (∀ row ∈ ["nav main", "main nav"], IsNulFree row) ∧ (tokenize ["nav main", "main nav"]).Renames f ∧
      compile ["main a.b", "a.b main"] = .error (.brokenRegion "main" 0 1 "a.b") ∧
        (∀ row ∈ ["nav main", ". main"], IsNulFree row) ∧ (tokenize ["nav main", ". main"]).Renames f ∧
          compile ["main a.b", ". a.b"] = .ok ⟨2, 2, [⟨"main", 0, 0, 1, 1⟩, ⟨"a.b", 0, 1, 2, 1⟩]⟩ := by
  intro f
  have hbroken : ∀ row ∈ ["nav main", "main nav"], IsNulFree row := by decide
  have hrenamesBroken : (tokenize ["nav main", "main nav"]).Renames f := by decide +kernel
  have hvalid : ∀ row ∈ ["nav main", ". main"], IsNulFree row := by decide
  have hrenamesValid : (tokenize ["nav main", ". main"]).Renames f := by decide +kernel
  refine ⟨hbroken, hrenamesBroken, ?_, hvalid, hrenamesValid, ?_⟩
  · exact ((compile_rename hbroken hrenamesBroken).2 _ (by decide +kernel)).trans (by decide +kernel)
  · exact ((compile_rename hvalid hrenamesValid).2 _ (by decide +kernel)).trans (by decide +kernel)

end RegionGrid
