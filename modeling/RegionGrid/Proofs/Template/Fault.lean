import RegionGrid.Proofs.Template.Compile

/-!
# Faults of templates

A template that is not valid may have many faults, and one of them is reported: that nothing is named in
the first row, else the first row of another length, else the first region that does not fill the smallest
box around it, with the first position of the box where another word stands. Main statement: a template is
refused with an error exactly when that error is its fault.
-/

namespace RegionGrid

/-! ### The fault of a region -/

namespace TokenGrid

/-- The positions of a box whose words differ from a name before the NUL characters at their ends. -/
def mismatches (grid : TokenGrid) (box : Box) (name : String) : Set (Nat × Nat) :=
  {position | box.Holds position ∧ ∃ found, grid.word? position = some found ∧
    withoutTrailingNuls found ≠ withoutTrailingNuls name}

/--
What is reported of a region that does not fill the smallest box around it: the first mismatch in that box,
or the two areas if there is none.
-/
inductive RegionFault (grid : TokenGrid) (name : String) : TemplateError → Prop
  | brokenRegion {box : Box} {row column : Nat} {found : String}
      (bounds : box.Bounds (grid.occurrences name))
      (first : IsFirst (grid.mismatches box name) (row, column))
      (word : grid.word? (row, column) = some found) :
      RegionFault grid name (.brokenRegion name row column found)
  | wrongArea {box : Box} (bounds : box.Bounds (grid.occurrences name))
      (alike : grid.mismatches box name = ∅) :
      RegionFault grid name (.wrongArea name ((box.cell name).rowSpan * (box.cell name).columnSpan)
        (grid.positionsOf name).length)

end TokenGrid

section Region

variable {grid : TokenGrid} {name : String} {e : TemplateError}

private def mismatch? (grid : TokenGrid) (name : String) (position : Nat × Nat) :
    Option ((Nat × Nat) × String) :=
  (grid.word? position).bind fun found => if looksLike found name then none else some (position, found)

private theorem mismatch?_eq_some_iff {position place : Nat × Nat} {found : String} :
    mismatch? grid name position = some (place, found) ↔
      place = position ∧ grid.word? position = some found ∧
        withoutTrailingNuls found ≠ withoutTrailingNuls name := by
  rw [mismatch?, Option.bind_eq_some_iff]
  constructor
  · intro h
    obtain ⟨word, hword, hother⟩ := h
    split at hother
    · cases hother
    · next hlooks =>
      obtain ⟨rfl, rfl⟩ := Prod.mk.inj (Option.some.inj hother)
      exact ⟨rfl, hword, fun heq => hlooks (beq_iff_eq.mpr heq)⟩
  · intro h
    obtain ⟨rfl, hword, hne⟩ := h
    exact ⟨found, hword, if_neg fun hlooks => hne (eq_of_beq hlooks)⟩

private theorem mem_mismatches_iff {box : Box} (hbounds : box.Bounds (grid.occurrences name))
    {position : Nat × Nat} :
    position ∈ grid.mismatches box name ↔
      position ∈ (box.cell name).positions ∧ mismatch? grid name position ≠ none := by
  rw [hbounds.mem_positions_cell, Option.ne_none_iff_exists']
  apply and_congr_right
  intro _
  constructor
  · intro h
    obtain ⟨found, hfound⟩ := h
    exact ⟨(position, found), mismatch?_eq_some_iff.mpr ⟨rfl, hfound⟩⟩
  · intro h
    obtain ⟨⟨place, found⟩, hfound⟩ := h
    exact ⟨found, (mismatch?_eq_some_iff.mp hfound).2⟩

private theorem findSome?_mismatch?_eq_some_iff {box : Box}
    (hbounds : box.Bounds (grid.occurrences name)) {position : Nat × Nat} {found : String} :
    (box.cell name).positions.findSome? (mismatch? grid name) = some (position, found) ↔
      IsFirst (grid.mismatches box name) position ∧ grid.word? position = some found := by
  have hasymm : ∀ a b, Before a b → ¬ Before b a := fun _ _ => asymm_of Before
  have hfirst := exists_eq_append_iff_of_sorted hasymm (box.cell name).positions_sorted
    fun other => mismatch? grid name other ≠ none
  simp only [not_not] at hfirst
  rw [List.findSome?_eq_some_iff]
  constructor
  · intro h
    obtain ⟨front, place, back, hsplit, hfound, hfront⟩ := h
    obtain ⟨rfl, hword, -⟩ := mismatch?_eq_some_iff.mp hfound
    obtain ⟨hmem, hbefore⟩ := (hfirst position).mp ⟨front, back, hsplit, hfront⟩
    have hmismatch : mismatch? grid name position ≠ none := by
      rw [hfound]
      exact Option.some_ne_none _
    refine ⟨⟨(mem_mismatches_iff hbounds).mpr ⟨hmem, hmismatch⟩, fun other hother hne => ?_⟩, hword⟩
    obtain ⟨hother, hmismatch⟩ := (mem_mismatches_iff hbounds).mp hother
    exact hbefore other hother hmismatch hne
  · intro h
    obtain ⟨⟨hmem, hbefore⟩, hword⟩ := h
    obtain ⟨front, back, hsplit, hfront⟩ := (hfirst position).mpr
      ⟨((mem_mismatches_iff hbounds).mp hmem).1, fun other hother hmismatch hne =>
        hbefore other ((mem_mismatches_iff hbounds).mpr ⟨hother, hmismatch⟩) hne⟩
    obtain ⟨-, word, hfound, hne⟩ := hmem
    obtain rfl := Option.some.inj (hword.symm.trans hfound)
    exact ⟨front, position, back, hsplit, mismatch?_eq_some_iff.mpr ⟨rfl, hword, hne⟩, hfront⟩

private theorem regionCell_of_bounds {box : Box} (hbounds : box.Bounds (grid.occurrences name)) :
    regionCell grid name =
      match (box.cell name).positions.findSome? (mismatch? grid name) with
      | some ((row, column), found) => .error (.brokenRegion name row column found)
      | none =>
        if (box.cell name).rowSpan * (box.cell name).columnSpan = (grid.positionsOf name).length then
          .ok (box.cell name)
        else .error (.wrongArea name ((box.cell name).rowSpan * (box.cell name).columnSpan)
          (grid.positionsOf name).length) := by
  obtain ⟨position, hword, -⟩ := hbounds.firstRow.1
  obtain ⟨first, others, hpositions⟩ :=
    List.exists_cons_of_ne_nil (List.ne_nil_of_mem (TokenGrid.mem_positionsOf.mpr hword))
  rw [hbounds.unique (bounds_of_positionsOf hpositions), regionCell]
  simp only [hpositions, List.length_cons]
  rfl

theorem regionCell_eq_error_iff (hname : grid.Names name) (hbroken : ¬ grid.FillsBox name) :
    regionCell grid name = .error e ↔ grid.RegionFault name e := by
  obtain ⟨box, hbounds⟩ := TokenGrid.exists_bounds hname
  have hrefused : ∀ cell, regionCell grid name ≠ .ok cell := fun cell hok =>
    hbroken (exists_regionCell_eq_ok_iff.mp ⟨cell, hok⟩)
  rw [regionCell_of_bounds hbounds] at hrefused ⊢
  cases hmismatch : (box.cell name).positions.findSome? (mismatch? grid name) with
  | some mismatch =>
    obtain ⟨⟨row, column⟩, found⟩ := mismatch
    obtain ⟨hfirst, hword⟩ := (findSome?_mismatch?_eq_some_iff hbounds).mp hmismatch
    constructor
    · intro herror
      cases herror
      exact .brokenRegion hbounds hfirst hword
    · intro hfault
      cases hfault with
      | brokenRegion hother hotherFirst hotherWord =>
        rw [hother.unique hbounds] at hotherFirst
        obtain ⟨rfl, rfl⟩ := Prod.mk.inj (hfirst.unique hotherFirst)
        rw [Option.some.inj (hword.symm.trans hotherWord)]
      | wrongArea hother halike =>
        rw [hother.unique hbounds] at halike
        exact absurd hfirst.mem (halike ▸ Set.notMem_empty _)
  | none =>
    have hnone : grid.mismatches box name = ∅ := by
      rw [Set.eq_empty_iff_forall_notMem]
      intro position hposition
      obtain ⟨hinside, hfound⟩ := (mem_mismatches_iff hbounds).mp hposition
      exact hfound (List.findSome?_eq_none_iff.mp hmismatch position hinside)
    rw [hmismatch] at hrefused
    simp only at hrefused ⊢
    split
    · next harea => exact absurd (if_pos harea) (hrefused _)
    · constructor
      · intro herror
        cases herror
        exact .wrongArea hbounds hnone
      · intro hfault
        cases hfault with
        | brokenRegion hother hfirst =>
          rw [hother.unique hbounds, hnone] at hfirst
          exact absurd hfirst.mem (Set.notMem_empty _)
        | wrongArea hother => rw [hother.unique hbounds]

end Region

/-! ### The fault of a template -/

namespace TokenGrid

/-- Of the regions that do not fill the smallest box around them, the one that is first read. -/
structure FirstBroken (grid : TokenGrid) (name : String) : Prop where
  names : grid.Names name
  broken : ¬ grid.FillsBox name
  before : ∀ other, grid.Names other → ¬ grid.FillsBox other → other ≠ name →
    grid.ReadBefore name other

/-- What is reported of a grid of words that is not valid. -/
inductive Fault (grid : TokenGrid) : TemplateError → Prop
  | nothingNamed (nonempty : grid ≠ []) (free : ∀ word ∈ grid.headD [], word = placeholder) :
      Fault grid .nothingNamed
  | raggedRow {row : Nat} {words : List String}
      (named : ∃ word ∈ grid.headD [], word ≠ placeholder) (row_eq : grid[row]? = some words)
      (ragged : words.length ≠ (grid.headD []).length)
      (first : ∀ earlier < row, ∀ other, grid[earlier]? = some other →
        other.length = (grid.headD []).length) :
      Fault grid (.raggedRow row words.length (grid.headD []).length)
  | region {name : String} {e : TemplateError} (named : ∃ word ∈ grid.headD [], word ≠ placeholder)
      (even : ∀ row ∈ grid, row.length = (grid.headD []).length) (first : grid.FirstBroken name)
      (fault : grid.RegionFault name e) :
      Fault grid e

end TokenGrid

section Template

variable {grid : TokenGrid} {e : TemplateError}

private theorem mapM_regionCell_eq_error_iff :
    grid.regionNames.mapM (regionCell grid) = .error e ↔
      ∃ name, grid.FirstBroken name ∧ grid.RegionFault name e := by
  have hasymm : ∀ a b, grid.ReadBefore a b → ¬ grid.ReadBefore b a := fun _ _ =>
    TokenGrid.ReadBefore.asymm
  have hfirst := exists_eq_append_iff_of_sorted hasymm grid.regionNames_sorted fun other =>
    ¬ grid.FillsBox other
  simp only [not_not, TokenGrid.mem_regionNames] at hfirst
  simp only [mapM_eq_error_iff, exists_regionCell_eq_ok_iff]
  constructor
  · intro h
    obtain ⟨front, name, back, hsplit, hfront, herror⟩ := h
    obtain ⟨hname, hbefore⟩ := (hfirst name).mp ⟨front, back, hsplit, hfront⟩
    have hbroken : ¬ grid.FillsBox name := by
      intro hfilled
      obtain ⟨cell, hok⟩ := exists_regionCell_eq_ok_iff.mpr hfilled
      rw [hok] at herror
      cases herror
    exact ⟨name, ⟨hname, hbroken, hbefore⟩, (regionCell_eq_error_iff hname hbroken).mp herror⟩
  · intro h
    obtain ⟨name, ⟨hname, hbroken, hbefore⟩, hfault⟩ := h
    obtain ⟨front, back, hsplit, hfront⟩ := (hfirst name).mpr ⟨hname, hbefore⟩
    exact ⟨front, name, back, hsplit, hfront, (regionCell_eq_error_iff hname hbroken).mpr hfault⟩

private theorem find?_uneven_eq_some_iff {count row : Nat} {words : List String} :
    grid.zipIdx.find? (fun (row, _) => row.length ≠ count) = some (words, row) ↔
      grid[row]? = some words ∧ words.length ≠ count ∧
        ∀ earlier < row, ∀ other, grid[earlier]? = some other → other.length = count := by
  simp only [List.find?_eq_some_iff_getElem, List.length_zipIdx, List.getElem_zipIdx, Nat.zero_add,
    Prod.mk.injEq, decide_eq_true_eq, Bool.not_eq_true', decide_eq_false_iff_not, not_not]
  constructor
  · intro h
    obtain ⟨hragged, index, hindex, ⟨rfl, rfl⟩, hfirst⟩ := h
    refine ⟨List.getElem?_eq_getElem hindex, hragged, fun earlier hearlier other hother => ?_⟩
    obtain ⟨hlt, rfl⟩ := List.getElem?_eq_some_iff.mp hother
    exact hfirst earlier hearlier
  · intro h
    obtain ⟨hrow, hragged, hfirst⟩ := h
    obtain ⟨hindex, rfl⟩ := List.getElem?_eq_some_iff.mp hrow
    refine ⟨hragged, row, hindex, ⟨rfl, rfl⟩, fun earlier hearlier => ?_⟩
    exact hfirst earlier hearlier _ (List.getElem?_eq_getElem (hearlier.trans hindex))

private theorem compileTokens_cons_eq_error_iff {firstRow : List String} {rest : TokenGrid} :
    compileTokens (firstRow :: rest) = .error e ↔
      (∀ word ∈ firstRow, word = placeholder) ∧ e = .nothingNamed ∨
      (∃ word ∈ firstRow, word ≠ placeholder) ∧
        ((∃ row words, (firstRow :: rest).zipIdx.find? (fun (row, _) => row.length ≠ firstRow.length) =
              some (words, row) ∧ e = .raggedRow row words.length firstRow.length) ∨
          (∀ row ∈ firstRow :: rest, row.length = firstRow.length) ∧
            (TokenGrid.regionNames (firstRow :: rest)).mapM (regionCell (firstRow :: rest)) =
              .error e) := by
  have hfree : (∀ word ∈ firstRow, word = placeholder) ↔ firstRow.all (· = placeholder) = true := by
    simp
  rw [hfree, exists_ne_placeholder_iff, ← find?_uneven_eq_none_iff, compileTokens]
  split
  · next hall => simp [hall, eq_comm]
  · next hnamed =>
    rw [Bool.not_eq_true] at hnamed
    split
    · next words row hfound =>
      simp only [hnamed, hfound, Option.some.injEq, Prod.mk.injEq, Bool.false_eq_true, reduceCtorEq,
        false_and, or_false, false_or, true_and]
      constructor
      · intro herror
        cases herror
        exact ⟨row, words, ⟨rfl, rfl⟩, rfl⟩
      · intro h
        obtain ⟨_, _, ⟨rfl, rfl⟩, rfl⟩ := h
        rfl
    · next heven =>
      simp only [hnamed, heven, bind_eq_error_iff, Bool.false_eq_true, reduceCtorEq, false_and,
        exists_false, false_or, true_and]
      constructor
      · intro h
        rcases h with herror | ⟨cells, -, hok⟩
        · exact herror
        · cases hok
      · exact .inl

theorem compileTokens_eq_error_iff : compileTokens grid = .error e ↔ grid.Fault e := by
  cases grid with
  | nil =>
    constructor
    · intro herror
      cases herror
    · intro hfault
      cases hfault with
      | nothingNamed hne => exact absurd rfl hne
      | raggedRow hnamed => simp at hnamed
      | region hnamed => simp at hnamed
  | cons firstRow rest =>
    rw [compileTokens_cons_eq_error_iff]
    simp only [mapM_regionCell_eq_error_iff, find?_uneven_eq_some_iff]
    constructor
    · intro h
      rcases h with ⟨hfree, rfl⟩ | ⟨hnamed, ⟨row, words, ⟨hrow, hragged, hfirst⟩, rfl⟩ |
        ⟨heven, name, hbroken, hfault⟩⟩
      · exact .nothingNamed (List.cons_ne_nil _ _) hfree
      · exact .raggedRow hnamed hrow hragged hfirst
      · exact .region hnamed heven hbroken hfault
    · intro hfault
      cases hfault with
      | nothingNamed _ hfree => exact .inl ⟨hfree, rfl⟩
      | raggedRow hnamed hrow hragged hfirst =>
        exact .inr ⟨hnamed, .inl ⟨_, _, ⟨hrow, hragged, hfirst⟩, rfl⟩⟩
      | region hnamed heven hbroken hfault => exact .inr ⟨hnamed, .inr ⟨heven, _, hbroken, hfault⟩⟩

/-- A template is refused with an error exactly when that is the fault of its words. -/
theorem compile_eq_error_iff_fault (rows : List String) (e : TemplateError) :
    compile rows = .error e ↔ (tokenize rows).Fault e :=
  compileTokens_eq_error_iff

/-- Of two broken regions the first one is reported, at a position above all of its own. -/
example : compile ["c . a", "a b a", "b . b"] = .error (.brokenRegion "a" 0 0 "c") := by
  decide +kernel

end Template

end RegionGrid
