import RegionGrid.Text.Blank

/-!
# Pieces of a text

Cutting a text at a character is the other way of joining pieces by it: the pieces do not have the character,
and with it between them they are the text. This leaves only one list of pieces, so that what is known of the
pieces is read off the list that joins to the text.
-/

namespace RegionGrid

namespace Chars

variable {separator : Char} {text : List Char} {pieces : List (List Char)}

/-- The text is the pieces with the separator between them, and none of the pieces has it. -/
structure IsCut (separator : Char) (text : List Char) (pieces : List (List Char)) : Prop where
  ne_nil : pieces ≠ []
  free : ∀ piece ∈ pieces, separator ∉ piece
  joined : [separator].intercalate pieces = text

theorem notMem_of_mem_splitOn (separator : Char) (text : List Char) :
    ∀ piece ∈ text.splitOn separator, separator ∉ piece := by
  induction text with
  | nil => simp
  | cons c text ih =>
    rw [List.splitOn_cons_eq_if_modifyHead]
    by_cases hc : c = separator
    · simpa [hc] using ih
    · obtain ⟨first, more, hsplit⟩ := List.exists_cons_of_ne_nil (List.splitOn_ne_nil separator text)
      rw [hsplit] at ih ⊢
      simpa [hc, Ne.symm hc] using ih

theorem splitOn_eq_iff_isCut : text.splitOn separator = pieces ↔ IsCut separator text pieces := by
  constructor
  · rintro rfl
    exact ⟨List.splitOn_ne_nil _ _, notMem_of_mem_splitOn separator text, List.intercalate_splitOn separator⟩
  · rintro ⟨hne, hfree, rfl⟩
    exact List.splitOn_intercalate separator hfree hne

theorem isCut_pair_iff {before after : List Char} :
    IsCut separator text [before, after] ↔
      text = before ++ separator :: after ∧ separator ∉ before ∧ separator ∉ after := by
  have hjoined : [separator].intercalate [before, after] = before ++ separator :: after := by
    rw [List.intercalate_cons_cons, List.intercalate_singleton, List.append_assoc, List.singleton_append]
  constructor
  · intro hcut
    rw [← hjoined]
    exact ⟨hcut.joined.symm, hcut.free _ List.mem_cons_self, hcut.free _ (by simp)⟩
  · rintro ⟨htext, hbefore, hafter⟩
    exact ⟨List.cons_ne_nil _ _, by simp [hbefore, hafter], hjoined.trans htext.symm⟩

end Chars

end RegionGrid
