import RegionGrid.Proofs.Text.Words

/-!
# Rows of a text

A block of text is made of lines with a line break between any two, and its rows are the lines with something in
them. Where a line feed follows a carriage return, the lines of a text can be told in two ways, with an empty line
between the two or without it. The rows are the same.
-/

namespace RegionGrid

namespace Chars

variable {c : Char} {text line gap : List Char} {parts more : List (List Char)}

def hasInk (line : List Char) : Bool := line.any fun c => !isBlank c

/-- What ends a line: one of the characters that do, or a carriage return with a line feed. -/
inductive IsLineEnd : List Char → Prop
  | single {c : Char} (hc : isLineBreak c = true) : IsLineEnd [c]
  | pair : IsLineEnd ['\r', '\n']

/-- The text is made of these lines. After a line break at its end comes an empty line. -/
inductive IsBlock : List Char → List (List Char) → Prop
  | last {line : List Char} (hline : ∀ c ∈ line, isLineBreak c = false) : IsBlock line [line]
  | line {line gap text : List Char} {more : List (List Char)} (hline : ∀ c ∈ line, isLineBreak c = false)
      (hgap : IsLineEnd gap) (htext : IsBlock text more) : IsBlock (line ++ gap ++ text) (line :: more)

theorem lines_cons_of_break (hc : isLineBreak c = true) (hpair : c = '\r' → text.head? ≠ some '\n') :
    lines (c :: text) = [] :: lines text := by
  rw [lines, if_pos hc]
  rintro rest rfl rfl
  exact hpair rfl rfl

theorem lines_cons_of_not_break (hc : isLineBreak c = false) :
    lines (c :: text) = match lines text with
      | [] => [[c]]
      | line :: more => (c :: line) :: more := by
  have hpair : ∀ rest, c = '\r' → text = '\n' :: rest → False := by
    rintro rest rfl -
    cases hc
  exact (lines.eq_3 c text hpair).trans (if_neg (by simp [hc]))

theorem lines_append (hline : ∀ c ∈ line, isLineBreak c = false) (htext : lines text = [] :: more) :
    lines (line ++ text) = line :: more := by
  induction line with
  | nil => exact htext
  | cons c line ih =>
    rw [List.forall_mem_cons] at hline
    rw [List.cons_append, lines_cons_of_not_break hline.1, ih hline.2]

theorem lines_eq_singleton (hne : line ≠ []) (hline : ∀ c ∈ line, isLineBreak c = false) : lines line = [line] := by
  induction line with
  | nil => exact absurd rfl hne
  | cons c line ih =>
    rw [List.forall_mem_cons] at hline
    rw [lines_cons_of_not_break hline.1]
    cases line with
    | nil => rfl
    | cons d line => rw [ih (List.cons_ne_nil _ _) hline.2]

theorem IsLineEnd.exists_lines_append (hgap : IsLineEnd gap) (text : List Char) :
    ∃ more, lines (gap ++ text) = [] :: more ∧ more.filter hasInk = (lines text).filter hasInk := by
  cases hgap with
  | @single c hc =>
    by_cases hpair : c = '\r' → text.head? ≠ some '\n'
    · exact ⟨lines text, lines_cons_of_break hc hpair, rfl⟩
    · -- The pair ends one line only, and the line that is left out is empty.
      obtain ⟨rfl, hfeed⟩ := Classical.not_imp.mp hpair
      obtain ⟨rest, rfl⟩ := List.head?_eq_some_iff.mp (not_not.mp hfeed)
      have hrest : lines ('\n' :: rest) = [] :: lines rest :=
        lines_cons_of_break rfl fun heq => absurd heq (by decide)
      exact ⟨lines rest, by rw [List.singleton_append, lines], by rw [hrest]; rfl⟩
  | pair => exact ⟨lines text, by rw [List.cons_append, List.singleton_append, lines], rfl⟩

theorem IsBlock.filter_lines_eq (hblock : IsBlock text parts) :
    (lines text).filter hasInk = parts.filter hasInk := by
  induction hblock with
  | @last line hline =>
    cases line with
    | nil => rfl
    | cons c line => rw [lines_eq_singleton (List.cons_ne_nil _ _) hline]
  | @line line gap text more hline hgap _ ih =>
    obtain ⟨found, hfound, hrows⟩ := hgap.exists_lines_append text
    rw [List.append_assoc, lines_append hline hfound, List.filter_cons, List.filter_cons, hrows, ih]

theorem exists_isBlock (text : List Char) : ∃ parts, IsBlock text parts := by
  induction text with
  | nil => exact ⟨_, .last (List.forall_mem_nil _)⟩
  | cons c text ih =>
    obtain ⟨parts, hblock⟩ := ih
    by_cases hc : isLineBreak c = true
    · exact ⟨_, .line (List.forall_mem_nil _) (.single hc) hblock⟩
    · rw [Bool.not_eq_true] at hc
      cases hblock with
      | last hline => exact ⟨_, .last (List.forall_mem_cons.mpr ⟨hc, hline⟩)⟩
      | line hline hgap htext => exact ⟨_, .line (List.forall_mem_cons.mpr ⟨hc, hline⟩) hgap htext⟩

end Chars

/-- The rows are the lines of the text that are not blank. -/
def WritesRows (s : String) (rows : List String) : Prop :=
  ∃ parts, Chars.IsBlock s.toList parts ∧ parts.filter Chars.hasInk = rows.map String.toList

theorem filter_lines_eq_iff {s : String} {rows : List String} :
    (lines s).filter hasInk = rows ↔ WritesRows s rows := by
  have hink : hasInk ∘ String.ofList = Chars.hasInk := funext fun line => by
    rw [Function.comp_apply, hasInk, String.toList_ofList, Chars.hasInk]
  rw [lines, List.filter_map, hink, map_ofList_eq_iff]
  constructor
  · intro heq
    obtain ⟨parts, hblock⟩ := Chars.exists_isBlock s.toList
    exact ⟨parts, hblock, hblock.filter_lines_eq.symm.trans heq⟩
  · intro hwrites
    obtain ⟨parts, hblock, heq⟩ := hwrites
    exact hblock.filter_lines_eq.trans heq

instance (s : String) (rows : List String) : Decidable (WritesRows s rows) := decidable_of_iff _ filter_lines_eq_iff

end RegionGrid
