import RegionGrid.Text.Blank
import Mathlib.Data.List.Basic
import Mathlib.Tactic.MkIffOfInductiveProp

/-!
# Words of a text

Cutting a text into words is the other way of writing words with white space between them. A text spells words
if they stand in it in this order, each with white space or the end of the text behind it, and if everything
else in it is white space. Every text spells its words and no others, and what else is to be known of them is
read off the text that spells them.
-/

namespace RegionGrid

/-- A word: a text with characters, none of which is blank. -/
@[mk_iff]
structure IsWord (s : String) : Prop where
  ne_empty : s ≠ ""
  no_blank : ∀ c ∈ s.toList, isBlank c = false

instance (s : String) : Decidable (IsWord s) :=
  decidable_of_iff (s ≠ "" ∧ s.toList.any isBlank = false) (by simp [isWord_iff])

namespace Chars

variable {c : Char} {gap word text : List Char} {parts : List (List Char)}

theorem trimBy_eq_self {p : Char → Bool} (htext : ∀ c ∈ text, p c = false) : trimBy p text = text := by
  have hdrop (s : List Char) (hs : ∀ c ∈ s, p c = false) : s.dropWhile p = s := by
    cases s with
    | nil => rfl
    | cons c s => rw [List.dropWhile_cons_of_neg (by simp [hs c List.mem_cons_self])]
  have hreverse : ∀ c ∈ text.reverse, p c = false := fun c hc => htext c (List.mem_reverse.mp hc)
  rw [trimBy, hdrop text htext, hdrop _ hreverse, List.reverse_reverse]

theorem trim_eq_self (htext : ∀ c ∈ text, isBlank c = false) : trim text = text := trimBy_eq_self htext

theorem words_blank_append (hgap : ∀ c ∈ gap, isBlank c = true) : words (gap ++ text) = words text := by
  induction gap with
  | nil => rfl
  | cons c gap ih =>
    obtain ⟨hc, hgap⟩ := List.forall_mem_cons.mp hgap
    rw [List.cons_append, words, if_pos hc, ih hgap]

theorem words_append (hne : word ≠ []) (hword : ∀ c ∈ word, isBlank c = false)
    (htext : text.head?.all isBlank = true) : words (word ++ text) = word :: words text := by
  induction word with
  | nil => exact absurd rfl hne
  | cons c word ih =>
    obtain ⟨hc, hword⟩ := List.forall_mem_cons.mp hword
    have hc : ¬ isBlank c = true := by simp [hc]
    cases word with
    | nil => rw [List.singleton_append, words, if_neg hc, if_pos htext]
    | cons d word =>
      have hd : ¬ ((d :: word) ++ text).head?.all isBlank = true := by
        simp [hword d List.mem_cons_self]
      rw [List.cons_append, words, if_neg hc, if_neg hd, ih (List.cons_ne_nil _ _) hword]

/-- White space may stand in front of every word and at the end of the text; some has to stand between two. -/
inductive Spells : List Char → List (List Char) → Prop
  | blank {gap : List Char} (hgap : ∀ c ∈ gap, isBlank c = true) : Spells gap []
  | word {gap word text : List Char} {parts : List (List Char)} (hgap : ∀ c ∈ gap, isBlank c = true)
      (hne : word ≠ []) (hword : ∀ c ∈ word, isBlank c = false) (hnext : text.head?.all isBlank = true)
      (htext : Spells text parts) : Spells (gap ++ word ++ text) (word :: parts)

theorem Spells.words_eq (hspells : Spells text parts) : words text = parts := by
  induction hspells with
  | @blank gap hgap =>
    have hwords : words (gap ++ []) = words [] := words_blank_append hgap
    rwa [List.append_nil] at hwords
  | word hgap hne hword hnext _ ih =>
    rw [List.append_assoc, words_blank_append hgap, words_append hne hword hnext, ih]

theorem Spells.blank_cons (hc : isBlank c = true) (hspells : Spells text parts) : Spells (c :: text) parts := by
  cases hspells with
  | blank hgap => exact .blank (List.forall_mem_cons.mpr ⟨hc, hgap⟩)
  | word hgap hne hword hnext htext =>
    exact .word (List.forall_mem_cons.mpr ⟨hc, hgap⟩) hne hword hnext htext

theorem Spells.ink_cons (hc : isBlank c = false) (hink : ¬ text.head?.all isBlank = true)
    (hspells : Spells text parts) :
    ∃ first more, parts = first :: more ∧ Spells (c :: text) ((c :: first) :: more) := by
  -- The text does not start with white space, so it is neither blank nor has a gap before its first word.
  cases hspells with
  | blank hgap =>
    cases text with
    | nil => exact absurd rfl hink
    | cons d gap => exact absurd (hgap d List.mem_cons_self) hink
  | @word gap first text more hgap hne hword hnext htext =>
    cases gap with
    | nil =>
      have hfirst : ∀ d ∈ c :: first, isBlank d = false := List.forall_mem_cons.mpr ⟨hc, hword⟩
      exact ⟨first, more, rfl, .word hgap (List.cons_ne_nil c first) hfirst hnext htext⟩
    | cons d gap => exact absurd (hgap d List.mem_cons_self) hink

theorem spells_words (text : List Char) : Spells text (words text) := by
  fun_induction words text with
  | case1 => exact .blank (List.forall_mem_nil _)
  | case2 c text hblank ih => exact ih.blank_cons hblank
  | case3 c text hink hnext ih =>
    rw [Bool.not_eq_true] at hink
    exact .word (List.forall_mem_nil _) (List.cons_ne_nil c []) (List.forall_mem_singleton.mpr hink) hnext ih
  | case4 c text hink hnext hrest ih =>
    rw [Bool.not_eq_true] at hink
    -- A text that starts with a word spells one.
    obtain ⟨first, more, hparts, -⟩ := ih.ink_cons hink hnext
    cases hrest.symm.trans hparts
  | case5 c text hink hnext first more hrest ih =>
    rw [Bool.not_eq_true] at hink
    obtain ⟨_, _, hparts, hspells⟩ := ih.ink_cons hink hnext
    cases hrest.symm.trans hparts
    exact hspells

theorem words_eq_iff_spells : words text = parts ↔ Spells text parts :=
  ⟨fun hwords => hwords ▸ spells_words text, Spells.words_eq⟩

theorem Spells.no_blank (hspells : Spells text parts) :
    ∀ part ∈ parts, part ≠ [] ∧ ∀ c ∈ part, isBlank c = false := by
  induction hspells with
  | blank _ => simp
  | word _ hne hword _ _ ih => exact List.forall_mem_cons.mpr ⟨⟨hne, hword⟩, ih⟩

theorem Spells.subset (hspells : Spells text parts) : ∀ part ∈ parts, part ⊆ text := by
  induction hspells with
  | blank _ => simp
  | @word gap word text parts _ _ _ _ _ ih =>
    refine List.forall_mem_cons.mpr ⟨fun c hc => ?_, fun part hpart c hc => ?_⟩
    · exact List.mem_append_left _ (List.mem_append_right _ hc)
    · exact List.mem_append_right _ (ih part hpart hc)

theorem spells_intercalate_space {parts : List (List Char)}
    (hparts : ∀ part ∈ parts, part ≠ [] ∧ ∀ c ∈ part, isBlank c = false) :
    Spells ([' '].intercalate parts) parts := by
  induction parts with
  | nil => exact .blank (List.forall_mem_nil _)
  | cons part parts ih =>
    obtain ⟨⟨hne, hpart⟩, hparts⟩ := List.forall_mem_cons.mp hparts
    cases parts with
    | nil =>
      have hspells : Spells (part ++ []) [part] := .word (List.forall_mem_nil _) hne hpart rfl (.blank (List.forall_mem_nil _))
      rw [List.append_nil] at hspells
      rwa [List.intercalate_singleton]
    | cons next parts =>
      rw [List.intercalate_cons_cons, List.append_assoc]
      exact .word (List.forall_mem_nil _) hne hpart rfl ((ih hparts).blank_cons rfl)

end Chars

/-- The words stand in the text in this order, with white space between any two and perhaps at both ends. -/
def Spells (s : String) (line : List String) : Prop := Chars.Spells s.toList (line.map String.toList)

theorem map_ofList_eq_iff {parts : List (List Char)} {texts : List String} :
    parts.map String.ofList = texts ↔ parts = texts.map String.toList := by
  constructor
  · intro hparts
    rw [← hparts, List.map_map]
    exact ((List.map_congr_left fun _ _ => String.toList_ofList).trans (List.map_id _)).symm
  · intro hparts
    rw [hparts, List.map_map]
    exact (List.map_congr_left fun _ _ => String.ofList_toList).trans (List.map_id texts)

theorem words_eq_iff_spells {s : String} {line : List String} : words s = line ↔ Spells s line := by
  rw [Spells, ← Chars.words_eq_iff_spells, words, map_ofList_eq_iff]

instance (s : String) (line : List String) : Decidable (Spells s line) :=
  decidable_of_iff _ words_eq_iff_spells

theorem isWord_of_mem_words {s word : String} (hword : word ∈ words s) : IsWord word := by
  obtain ⟨chars, hchars, rfl⟩ := List.mem_map.mp hword
  obtain ⟨hne, hblank⟩ := (Chars.spells_words s.toList).no_blank chars hchars
  constructor
  · intro hempty
    exact hne (String.ofList_eq_empty_iff.mp hempty)
  · rwa [String.toList_ofList]

theorem toList_subset_of_mem_words {s word : String} (hword : word ∈ words s) : word.toList ⊆ s.toList := by
  obtain ⟨chars, hchars, rfl⟩ := List.mem_map.mp hword
  rw [String.toList_ofList]
  exact (Chars.spells_words s.toList).subset chars hchars

theorem words_intercalate {row : List String} (hrow : ∀ word ∈ row, IsWord word) :
    words (" ".intercalate row) = row := by
  have hparts : ∀ part ∈ row.map String.toList, part ≠ [] ∧ ∀ c ∈ part, isBlank c = false := by
    intro part hpart
    obtain ⟨word, hword, rfl⟩ := List.mem_map.mp hpart
    exact ⟨fun hnil => (hrow word hword).ne_empty (String.toList_eq_nil_iff.mp hnil),
      (hrow word hword).no_blank⟩
  rw [words_eq_iff_spells, Spells, String.toList_intercalate]
  exact Chars.spells_intercalate_space hparts

end RegionGrid
