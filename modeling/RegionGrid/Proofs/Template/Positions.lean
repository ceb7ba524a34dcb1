import RegionGrid.Template
import Mathlib.Data.List.Nodup
import Mathlib.Data.Prod.Lex

/-!
# Positions

What a grid of words and a cell have in common: both list positions in reading order. The lists of a
grid are described by `TokenGrid.word?`, the list of a cell by the ranges of its rows and columns, and
the rest of the theory reaches the lists only through these descriptions and their order.
-/

namespace RegionGrid

/-- One position is read before another: rows come from the top, and words from the left. -/
abbrev Before : Nat × Nat → Nat × Nat → Prop := Prod.Lex (· < ·) (· < ·)

theorem before_iff {a b : Nat × Nat} : Before a b ↔ a.1 < b.1 ∨ a.1 = b.1 ∧ a.2 < b.2 := Prod.lex_def

theorem nodup_of_pairwise_before {positions : List (Nat × Nat)}
    (hsorted : positions.Pairwise Before) : positions.Nodup := by
  apply hsorted.imp
  intro a b hbefore heq
  subst heq
  exact absurd hbefore (irrefl_of Before a)

/-- The position is the first one that is read of some positions. -/
structure IsFirst (positions : Set (Nat × Nat)) (position : Nat × Nat) : Prop where
  mem : position ∈ positions
  before : ∀ other ∈ positions, other ≠ position → Before position other

theorem IsFirst.unique {positions : Set (Nat × Nat)} {a b : Nat × Nat} (ha : IsFirst positions a)
    (hb : IsFirst positions b) : a = b := by
  by_contra hne
  exact asymm_of Before (ha.before b hb.mem (Ne.symm hne)) (hb.before a ha.mem hne)

/-- In a sorted list, what stands in front of an item is what comes before it. -/
theorem exists_eq_append_iff_of_sorted {α : Type} {r : α → α → Prop} (hasymm : ∀ a b, r a b → ¬ r b a)
    {items : List α} (hsorted : items.Pairwise r) (p : α → Prop) (item : α) :
    (∃ front back, items = front ++ item :: back ∧ ∀ other ∈ front, ¬ p other) ↔
      item ∈ items ∧ ∀ other ∈ items, p other → other ≠ item → r item other := by
  constructor
  · intro h
    obtain ⟨front, back, rfl, hfront⟩ := h
    obtain ⟨-, hback, -⟩ := List.pairwise_append.mp hsorted
    refine ⟨List.mem_append_right _ List.mem_cons_self, fun other hother hp hne => ?_⟩
    rcases List.mem_append.mp hother with hother | hother
    · exact absurd hp (hfront other hother)
    · have hother := (List.mem_cons.mp hother).resolve_left hne
      exact (List.pairwise_cons.mp hback).1 other hother
  · intro h
    obtain ⟨hitem, hfirst⟩ := h
    obtain ⟨front, back, rfl⟩ := List.append_of_mem hitem
    obtain ⟨-, -, hfront⟩ := List.pairwise_append.mp hsorted
    refine ⟨front, back, rfl, fun other hother hp => ?_⟩
    have hbefore := hfront other hother item List.mem_cons_self
    have hne : other ≠ item := fun heq => hasymm other item hbefore (heq ▸ hbefore)
    exact hasymm other item hbefore (hfirst other (List.mem_append_left _ hother) hp hne)

/-- Rows that come one below the other, each read from the left, are in reading order. -/
private theorem rows_sorted {α : Type} {rows : List α} {row start count : α → Nat}
    (hrows : rows.Pairwise fun a b => row a < row b) :
    (rows.flatMap fun a => (List.range' (start a) (count a)).map fun c => (row a, c)).Pairwise
      Before := by
  refine List.pairwise_flatMap.mpr ⟨fun a _ => ?_, hrows.imp fun {a b} hlt => ?_⟩
  · have hcolumns := List.pairwise_lt_range' (s := start a) (n := count a)
    exact List.pairwise_map.mpr (hcolumns.imp fun hlt => Prod.Lex.right _ hlt)
  · intro first hfirst second hsecond
    obtain ⟨_, _, rfl⟩ := List.mem_map.mp hfirst
    obtain ⟨_, _, rfl⟩ := List.mem_map.mp hsecond
    exact Prod.Lex.left _ _ hlt

/-! ### Positions of words -/

namespace TokenGrid

variable {grid : TokenGrid} {word name : String} {position : Nat × Nat}

theorem word?_eq_some_iff {row column : Nat} :
    grid.word? (row, column) = some word ↔
      ∃ words, grid[row]? = some words ∧ words[column]? = some word :=
  Option.bind_eq_some_iff

theorem mem_entries : (position, word) ∈ grid.entries ↔ grid.word? position = some word := by
  obtain ⟨row, column⟩ := position
  simp only [entries, List.mem_flatMap, List.mem_map, Prod.exists, List.mk_mem_zipIdx_iff_getElem?,
    Prod.mk.injEq, word?_eq_some_iff]
  constructor
  · intro h
    obtain ⟨line, r, hline, w, c, hword, ⟨rfl, rfl⟩, rfl⟩ := h
    exact ⟨line, hline, hword⟩
  · intro h
    obtain ⟨line, hline, hword⟩ := h
    exact ⟨line, row, hline, word, column, hword, ⟨rfl, rfl⟩, rfl⟩

theorem mem_positionsOf : position ∈ grid.positionsOf name ↔ grid.word? position = some name := by
  rw [← mem_entries, positionsOf, List.mem_map]
  constructor
  · intro h
    obtain ⟨⟨_, word⟩, hfiltered, rfl⟩ := h
    obtain ⟨hentry, hword⟩ := List.mem_filter.mp hfiltered
    cases of_decide_eq_true hword
    exact hentry
  · intro hentry
    exact ⟨(position, name), List.mem_filter.mpr ⟨hentry, decide_eq_true rfl⟩, rfl⟩

private theorem positions_entries (grid : TokenGrid) :
    grid.entries.map (·.1) =
      grid.zipIdx.flatMap fun line => (List.range' 0 line.1.length).map fun c => (line.2, c) := by
  rw [entries, List.map_flatMap]
  congr 1
  funext ⟨line, row⟩
  rw [← List.zipIdx_map_snd, List.map_map, List.map_map]
  rfl

private theorem entries_sorted (grid : TokenGrid) : (grid.entries.map (·.1)).Pairwise Before := by
  have hrows : grid.zipIdx.Pairwise fun a b => a.2 < b.2 := by
    rw [← List.pairwise_map (f := Prod.snd), List.zipIdx_map_snd]
    exact List.pairwise_lt_range'
  rw [positions_entries]
  exact rows_sorted hrows

theorem positionsOf_sorted (grid : TokenGrid) (name : String) :
    (grid.positionsOf name).Pairwise Before :=
  (entries_sorted grid).sublist (List.filter_sublist.map _)

theorem nodup_positionsOf (grid : TokenGrid) (name : String) : (grid.positionsOf name).Nodup :=
  nodup_of_pairwise_before (positionsOf_sorted grid name)

/-! ### Names of regions -/

/-- A word of the grid that names a region. -/
def Names (grid : TokenGrid) (name : String) : Prop :=
  name ≠ placeholder ∧ ∃ row ∈ grid, name ∈ row

instance (grid : TokenGrid) (name : String) : Decidable (grid.Names name) :=
  inferInstanceAs (Decidable (_ ∧ _))

theorem exists_word?_iff : (∃ position, grid.word? position = some word) ↔ ∃ row ∈ grid, word ∈ row := by
  constructor
  · intro h
    obtain ⟨⟨row, column⟩, hword⟩ := h
    obtain ⟨line, hline, hword⟩ := word?_eq_some_iff.mp hword
    exact ⟨line, List.mem_of_getElem? hline, List.mem_of_getElem? hword⟩
  · intro h
    obtain ⟨line, hline, hword⟩ := h
    obtain ⟨row, hrow⟩ := List.mem_iff_getElem?.mp hline
    obtain ⟨column, hcolumn⟩ := List.mem_iff_getElem?.mp hword
    exact ⟨(row, column), word?_eq_some_iff.mpr ⟨line, hrow, hcolumn⟩⟩

theorem mem_flatten_iff : word ∈ grid.flatten ↔ ∃ position, grid.word? position = some word :=
  List.mem_flatten.trans exists_word?_iff.symm

theorem mem_flatten_of_word? (hword : grid.word? position = some word) : word ∈ grid.flatten :=
  mem_flatten_iff.mpr ⟨position, hword⟩

/-- In a grid whose rows have as many words each, the positions that hold a word form a rectangle. -/
theorem exists_word?_iff_of_even {count row column : Nat} (heven : ∀ line ∈ grid, line.length = count) :
    (∃ word, grid.word? (row, column) = some word) ↔ row < grid.length ∧ column < count := by
  simp only [word?_eq_some_iff]
  constructor
  · intro h
    obtain ⟨word, line, hline, hword⟩ := h
    obtain ⟨hrow, -⟩ := List.getElem?_eq_some_iff.mp hline
    obtain ⟨hcolumn, -⟩ := List.getElem?_eq_some_iff.mp hword
    rw [heven line (List.mem_of_getElem? hline)] at hcolumn
    exact ⟨hrow, hcolumn⟩
  · intro h
    obtain ⟨hrow, hcolumn⟩ := h
    rw [← heven _ (List.getElem_mem hrow)] at hcolumn
    exact ⟨_, _, List.getElem?_eq_getElem hrow, List.getElem?_eq_getElem hcolumn⟩

theorem names_iff : grid.Names name ↔ name ≠ placeholder ∧ ∃ position, grid.word? position = some name := by
  rw [Names, exists_word?_iff]

theorem Names.mem_flatten (hname : grid.Names name) : name ∈ grid.flatten :=
  mem_flatten_iff.mpr (names_iff.mp hname).2

private theorem map_snd_entries (grid : TokenGrid) : grid.entries.map (·.2) = grid.flatten := by
  rw [entries, List.map_flatMap, List.flatten_eq_flatMap]
  conv_rhs => rw [← List.zipIdx_map_fst 0 grid, List.flatMap_map]
  congr 1
  funext ⟨line, row⟩
  rw [List.map_map]
  exact List.zipIdx_map_fst 0 line

/-- Reading the rows one after the other, each from the left, and keeping every name where it first occurs. -/
theorem regionNames_eq_eraseDups (grid : TokenGrid) :
    grid.regionNames = (grid.flatten.filter (· ≠ placeholder)).eraseDups := by
  rw [regionNames, map_snd_entries]

theorem mem_regionNames : name ∈ grid.regionNames ↔ grid.Names name := by
  rw [regionNames_eq_eraseDups, List.mem_eraseDups, List.mem_filter, decide_eq_true_eq, List.mem_flatten,
    and_comm, Names]

/-- One name is first read before another one is read at all. -/
def ReadBefore (grid : TokenGrid) (name other : String) : Prop :=
  ∃ position, grid.word? position = some name ∧
    ∀ later, grid.word? later = some other → Before position later

theorem ReadBefore.asymm {other : String} (hbefore : grid.ReadBefore name other) :
    ¬ grid.ReadBefore other name := by
  intro hafter
  obtain ⟨position, hword, hlater⟩ := hbefore
  obtain ⟨later, hother, hearlier⟩ := hafter
  exact asymm_of Before (hlater later hother) (hearlier position hword)

/-- Of entries in reading order, the words come in the order in which they are first read. -/
private theorem eraseDups_sorted : (entries : List ((Nat × Nat) × String)) →
    entries.Pairwise (fun a b => Before a.1 b.1) →
    (entries.map (·.2)).eraseDups.Pairwise fun word other =>
      ∃ position, (position, word) ∈ entries ∧ ∀ later, (later, other) ∈ entries → Before position later
  | [], _ => List.Pairwise.nil
  | (first, word) :: rest, hsorted => by
    obtain ⟨hfirst, hrest⟩ := List.pairwise_cons.mp hsorted
    let others := rest.filter fun entry => !entry.2 == word
    have hdups : (((first, word) :: rest).map (·.2)).eraseDups = word :: (others.map (·.2)).eraseDups := by
      rw [List.map_cons, List.eraseDups_cons, List.filter_map]
      rfl
    -- Where a word that is left after the first one is read, there is one of the other entries.
    have hother : ∀ {other}, other ∈ (others.map (·.2)).eraseDups →
        ∀ {position}, (position, other) ∈ (first, word) :: rest → (position, other) ∈ others := by
      intro other hmem position hentry
      obtain ⟨entry, hkept, rfl⟩ := List.mem_map.mp (List.mem_eraseDups.mp hmem)
      have hne := List.of_mem_filter hkept
      rcases List.mem_cons.mp hentry with heq | hentry
      · simp [(Prod.mk.inj heq).2] at hne
      · exact List.mem_filter.mpr ⟨hentry, hne⟩
    have hothers := eraseDups_sorted others (hrest.filter _)
    rw [hdups]
    refine List.pairwise_cons.mpr ⟨fun other hmem => ?_, hothers.imp_of_mem fun _ hmem h => ?_⟩
    · refine ⟨first, List.mem_cons_self, fun later hlater => ?_⟩
      exact hfirst _ (List.mem_filter.mp (hother hmem hlater)).1
    · obtain ⟨position, hentry, hbefore⟩ := h
      refine ⟨position, List.mem_cons_of_mem _ (List.mem_filter.mp hentry).1, fun later hlater => ?_⟩
      exact hbefore later (hother hmem hlater)
termination_by entries => entries.length
decreasing_by exact Nat.lt_succ_of_le (List.length_filter_le _ _)

theorem regionNames_sorted (grid : TokenGrid) : grid.regionNames.Pairwise grid.ReadBefore := by
  have hsorted : grid.entries.Pairwise fun a b => Before a.1 b.1 :=
    List.pairwise_map.mp (entries_sorted grid)
  have hnamed := eraseDups_sorted _ (hsorted.filter (·.2 ≠ placeholder))
  have hnames : grid.regionNames = ((grid.entries.filter (·.2 ≠ placeholder)).map (·.2)).eraseDups := by
    rw [regionNames, List.filter_map]
    rfl
  rw [← hnames] at hnamed
  refine hnamed.imp_of_mem fun {name other} _ hother h => ?_
  obtain ⟨position, hentry, hbefore⟩ := h
  have hentry := (List.mem_filter.mp hentry).1
  have hne : other ≠ placeholder := (mem_regionNames.mp hother).1
  refine ⟨position, mem_entries.mp hentry, fun later hlater => hbefore later ?_⟩
  exact List.mem_filter.mpr ⟨mem_entries.mpr hlater, decide_eq_true hne⟩

private theorem nodup_of_sorted {names : List String} (hsorted : names.Pairwise grid.ReadBefore) :
    names.Nodup := by
  refine hsorted.imp fun {name other} hbefore heq => ?_
  subst heq
  exact hbefore.asymm hbefore

theorem nodup_regionNames (grid : TokenGrid) : grid.regionNames.Nodup :=
  nodup_of_sorted (regionNames_sorted grid)

/-- The names of the regions are the only list that has them all in the order in which they are first read. -/
theorem eq_regionNames {names : List String} (hnames : ∀ name, name ∈ names ↔ grid.Names name)
    (hsorted : names.Pairwise grid.ReadBefore) : names = grid.regionNames := by
  have hperm : names.Perm grid.regionNames := by
    rw [List.perm_ext_iff_of_nodup (nodup_of_sorted hsorted) (nodup_regionNames grid)]
    intro name
    rw [hnames, mem_regionNames]
  refine hperm.eq_of_pairwise (fun name other _ _ hbefore hafter => ?_) hsorted (regionNames_sorted grid)
  exact absurd hafter hbefore.asymm

end TokenGrid

/-! ### Positions of cells -/

namespace Cell

variable {cell : Cell} {position : Nat × Nat}

theorem mem_positions :
    position ∈ cell.positions ↔
      (cell.row ≤ position.1 ∧ position.1 < cell.row + cell.rowSpan) ∧
        cell.column ≤ position.2 ∧ position.2 < cell.column + cell.columnSpan := by
  obtain ⟨row, column⟩ := position
  simp only [positions, List.mem_flatMap, List.mem_map, List.mem_range'_1, Prod.mk.injEq]
  constructor
  · intro h
    obtain ⟨r, hrow, c, hcolumn, rfl, rfl⟩ := h
    exact ⟨hrow, hcolumn⟩
  · intro h
    obtain ⟨hrow, hcolumn⟩ := h
    exact ⟨row, hrow, column, hcolumn, rfl, rfl⟩

theorem positions_sorted (cell : Cell) : cell.positions.Pairwise Before := by
  have hrows : (List.range' cell.row cell.rowSpan).Pairwise fun a b => id a < id b :=
    List.pairwise_lt_range'
  exact rows_sorted hrows

theorem nodup_positions (cell : Cell) : cell.positions.Nodup :=
  nodup_of_pairwise_before (positions_sorted cell)

theorem length_positions (cell : Cell) : cell.positions.length = cell.rowSpan * cell.columnSpan := by
  simp [positions, List.length_flatMap, List.map_const']

end Cell

end RegionGrid
