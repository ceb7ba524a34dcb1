import RegionGrid.Proofs.Definition.Entry
import RegionGrid.Proofs.Text.Lines

/-!
# Two ways to write the rows

The rows of a template are the items of a list or the lines of a text. A text with these rows is as good as the
list of them, whatever ends its lines, wherever there are blank lines and whatever the entry has besides.
-/

namespace RegionGrid

namespace Definition

variable {fields fields' : List (Value × Value)} {label? label?' rowsLabel? : Option Label} {s : String}
  {rows : List String}

theorem rows?_list (rows : List String) (label? : Option Label) : rows? (.list (rows.map .string) label?) = some rows :=
  rows?_eq_some_iff.mpr (.listed rows label?)

theorem rows?_string (hrows : WritesRows s rows) : rows? (.string s) = some rows :=
  congrArg some (filter_lines_eq_iff.mpr hrows)

/-- A text and the list of its rows give the same grid template, or they fail with the same error. -/
theorem gridTemplate_text_eq_list (size : SizeClass) (hrows : WritesRows s rows)
    (htext : Value.field? fields "template" = some (.string s))
    (hlist : Value.field? fields' "template" = some (.list (rows.map .string) rowsLabel?))
    (hcolumnSizes : Value.field fields "columns" = Value.field fields' "columns")
    (hrowSizes : Value.field fields "rows" = Value.field fields' "rows") :
    gridTemplate size (.mapping fields label?) = gridTemplate size (.mapping fields' label?') := by
  have hsame : rows? (.string s) = rows? (.list (rows.map .string) rowsLabel?) := by
    rw [rows?_string hrows, rows?_list]
  unfold gridTemplate
  simp only [htext, hlist, hsame, hcolumnSizes, hrowSizes]

/-- Three kinds of line breaks and two blank lines do not count in the row that the error names. -/
theorem gridTemplate_text_eq_list_ragged :
    let text : List (Value × Value) := [(.string "template", .string "\r\nhead head\r\n\t\u2028nav")]
    let list : List (Value × Value) := [(.string "template", .list (["head head", "nav"].map .string))]
    WritesRows "\r\nhead head\r\n\t\u2028nav" ["head head", "nav"] ∧
      gridTemplate .large (.mapping text) = gridTemplate .large (.mapping list) ∧
      gridTemplate .large (.mapping list) = .error (.template (.raggedRow 1 1 2)) := by
  intro text list
  have hrows : WritesRows "\r\nhead head\r\n\t\u2028nav" ["head head", "nav"] := by decide
  have hlist : Value.field? list "template" = some (.list (["head head", "nav"].map .string)) := rfl
  exact ⟨hrows, gridTemplate_text_eq_list .large hrows rfl hlist rfl rfl, rfl⟩

end Definition

end RegionGrid
