import RegionGrid.Proofs.Template.Fault
import RegionGrid.Proofs.Text.Words
import Mathlib.Data.List.DropRight

/-!
# Templates without NUL characters

Two words look alike if they only differ in the NUL characters at their ends, and the positions of a region
are counted because of such words alone. Where no word has a NUL character, words that look alike are equal,
and a box without a mismatch is filled with its name. Main statement: such a template is never refused for the
count; what is reported of a region is a position in the smallest box around it, with the other word that
stands there.
-/

namespace RegionGrid

def IsNulFree (s : String) : Prop := '\x00' ∉ s.toList

instance : DecidablePred IsNulFree := fun s => inferInstanceAs (Decidable ('\x00' ∉ s.toList))

theorem withoutTrailingNuls_eq_toList {s : String} (hs : IsNulFree s) : withoutTrailingNuls s = s.toList := by
  change s.toList.rdropWhile (· == '\x00') = s.toList
  rw [List.rdropWhile_eq_self_iff]
  intro hne hlast
  exact hs (eq_of_beq hlast ▸ List.getLast_mem hne)

theorem isNulFree_of_mem_tokenize {rows : List String} (hrows : ∀ row ∈ rows, IsNulFree row) :
    ∀ word ∈ (tokenize rows).flatten, IsNulFree word := by
  intro word hword hnul
  obtain ⟨line, hline, hword⟩ := List.mem_flatten.mp hword
  obtain ⟨row, hrow, rfl⟩ := List.mem_map.mp hline
  exact hrows row hrow (toList_subset_of_mem_words hword hnul)

namespace TokenGrid

variable {grid : TokenGrid} {name found : String} {box : Box} {position : Nat × Nat} {e : TemplateError}

/-- Another word than the name stands in the smallest box around it. -/
structure Intrudes (grid : TokenGrid) (name : String) (position : Nat × Nat) (found : String) : Prop where
  inside : ∃ box : Box, box.Bounds (grid.occurrences name) ∧ box.Holds position
  word : grid.word? position = some found
  ne : found ≠ name

theorem exists_word?_of_holds {count : Nat} (heven : ∀ row ∈ grid, row.length = count)
    (hbounds : box.Bounds (grid.occurrences name)) (hholds : box.Holds position) :
    ∃ word, grid.word? position = some word := by
  obtain ⟨lowest, hlowest, hlastRow⟩ := hbounds.lastRow.1
  obtain ⟨rightmost, hrightmost, hlastColumn⟩ := hbounds.lastColumn.1
  obtain ⟨hrow, -⟩ := (exists_word?_iff_of_even heven).mp ⟨name, hlowest⟩
  obtain ⟨-, hcolumn⟩ := (exists_word?_iff_of_even heven).mp ⟨name, hrightmost⟩
  obtain ⟨⟨-, hrowLe⟩, -, hcolumnLe⟩ := hholds
  exact (exists_word?_iff_of_even heven).mpr ⟨by omega, by omega⟩

variable (hgrid : ∀ word ∈ grid.flatten, IsNulFree word)

include hgrid

theorem mem_mismatches_iff_of_isNulFree (hname : IsNulFree name) :
    position ∈ grid.mismatches box name ↔
      box.Holds position ∧ ∃ found, grid.word? position = some found ∧ found ≠ name := by
  apply and_congr_right
  intro _
  apply exists_congr
  intro found
  apply and_congr_right
  intro hword
  rw [withoutTrailingNuls_eq_toList (hgrid found (mem_flatten_of_word? hword)),
    withoutTrailingNuls_eq_toList hname, ne_eq, String.toList_inj]

theorem fillsBox_of_mismatches_eq_empty {count : Nat} (heven : ∀ row ∈ grid, row.length = count)
    (hname : IsNulFree name) (hbounds : box.Bounds (grid.occurrences name))
    (halike : grid.mismatches box name = ∅) : grid.FillsBox name := by
  refine ⟨box, hbounds, fun position hholds => ?_⟩
  obtain ⟨word, hword⟩ := exists_word?_of_holds heven hbounds hholds
  by_contra hother
  have hmismatch : position ∈ grid.mismatches box name := by
    rw [mem_mismatches_iff_of_isNulFree hgrid hname]
    exact ⟨hholds, word, hword, fun heq => hother (heq ▸ hword)⟩
  exact absurd hmismatch (halike ▸ Set.notMem_empty _)

/-- The two areas of a region that does not fill its box are never reported. -/
theorem RegionFault.exists_intrudes {count : Nat} (heven : ∀ row ∈ grid, row.length = count)
    (hname : grid.Names name) (hbroken : ¬ grid.FillsBox name) (hfault : grid.RegionFault name e) :
    ∃ row column found, e = .brokenRegion name row column found ∧ grid.Intrudes name (row, column) found := by
  have hname : IsNulFree name := hgrid name hname.mem_flatten
  cases hfault with
  | brokenRegion hbounds hfirst hfound =>
    obtain ⟨hholds, other, hother, hne⟩ := (mem_mismatches_iff_of_isNulFree hgrid hname).mp hfirst.mem
    obtain rfl := Option.some.inj (hother.symm.trans hfound)
    exact ⟨_, _, _, rfl, ⟨_, hbounds, hholds⟩, hfound, hne⟩
  | wrongArea hbounds halike =>
    exact absurd (fillsBox_of_mismatches_eq_empty hgrid heven hname hbounds halike) hbroken

end TokenGrid

/--
A template without NUL characters is never refused for the count of a region's positions. When it is refused for
a region, another word stands in the smallest box around that region, at the position and with the word reported.
-/
theorem compile_reports_intruder {rows : List String} (hrows : ∀ row ∈ rows, IsNulFree row) :
    (∀ name area count, compile rows ≠ .error (.wrongArea name area count)) ∧
      ∀ name row column found, compile rows = .error (.brokenRegion name row column found) →
        (tokenize rows).Intrudes name (row, column) found := by
  have hgrid := isNulFree_of_mem_tokenize hrows
  constructor
  · intro name area count herror
    cases (compile_eq_error_iff_fault rows _).mp herror with
    | region _ heven hbroken hfault =>
      obtain ⟨_, _, _, hbrokenRegion, -⟩ := hfault.exists_intrudes hgrid heven hbroken.names hbroken.broken
      cases hbrokenRegion
  · intro name row column found herror
    cases (compile_eq_error_iff_fault rows _).mp herror with
    | region _ heven hbroken hfault =>
      obtain ⟨_, _, _, hbrokenRegion, hintrudes⟩ :=
        hfault.exists_intrudes hgrid heven hbroken.names hbroken.broken
      cases hbrokenRegion
      exact hintrudes

/-- Of two names on the diagonals of a square, one of which begins with the other. -/
theorem compile_reports_intruder_diagonal :
    (∀ row ∈ ["nav2 nav", "nav nav2"], IsNulFree row) ∧
      compile ["nav2 nav", "nav nav2"] = .error (.brokenRegion "nav2" 0 1 "nav") ∧
        (tokenize ["nav2 nav", "nav nav2"]).Intrudes "nav2" (0, 1) "nav" := by
  have hrows : ∀ row ∈ ["nav2 nav", "nav nav2"], IsNulFree row := by decide
  have herror : compile ["nav2 nav", "nav nav2"] = .error (.brokenRegion "nav2" 0 1 "nav") := by
    decide +kernel
  exact ⟨hrows, herror, (compile_reports_intruder hrows).2 _ _ _ _ herror⟩

/-- With a NUL character the count is what refuses a template. -/
example : compile ["a a\x00 a"] = .error (.wrongArea "a" 3 2) := by decide +kernel

end RegionGrid
