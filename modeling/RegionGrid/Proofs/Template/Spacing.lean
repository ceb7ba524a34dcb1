import RegionGrid.Template
import RegionGrid.Proofs.Text.Words
import Mathlib.Data.List.Forall2

/-!
# Spacing

How a template is spaced does not matter. A row has exactly the words that it spells, whatever white space
separates them, and compiling looks at the words alone. Main statement: templates whose rows spell the same
words have the same outcome, be it a plan or an error.
-/

namespace RegionGrid

/-- The two rows have the same words, each with white space of its own around them. -/
def Respaced (row other : String) : Prop := ∃ line, Spells row line ∧ Spells other line

theorem Respaced.words_eq {row other : String} (hrows : Respaced row other) : words other = words row := by
  obtain ⟨line, hrow, hother⟩ := hrows
  rw [words_eq_iff_spells.mpr hrow, words_eq_iff_spells.mpr hother]

theorem tokenize_respaced {rows others : List String} (hrows : List.Forall₂ Respaced rows others) :
    tokenize others = tokenize rows := by
  induction hrows with
  | nil => rfl
  | cons hrow _ ih => exact congrArg₂ List.cons hrow.words_eq ih

/--
The words of a row are those that it spells. So the outcome for a template is that for every other one whose rows
spell the same words, the details of an error included.
-/
theorem compile_respaced :
    (∀ (row : String) (line : List String), words row = line ↔ Spells row line) ∧
      ∀ rows others : List String, List.Forall₂ Respaced rows others → compile others = compile rows := by
  refine ⟨fun row line => words_eq_iff_spells, fun rows others hrows => ?_⟩
  rw [compile, compile, tokenize_respaced hrows]

/-- A tab, a no-break space and two wide spaces in a template that is valid and in one that is not. -/
theorem compile_respaced_unicode :
    List.Forall₂ Respaced ["a b", "a c"] ["\ta\u3000\u2003b", "a\u00a0c  "] ∧
      compile ["\ta\u3000\u2003b", "a\u00a0c  "] =
        .ok ⟨2, 2, [⟨"a", 0, 0, 2, 1⟩, ⟨"b", 0, 1, 1, 1⟩, ⟨"c", 1, 1, 1, 1⟩]⟩ ∧
      List.Forall₂ Respaced ["a b", "b a"] ["a\u2028 b", "\u0085b\x1ca"] ∧
        compile ["a\u2028 b", "\u0085b\x1ca"] = .error (.brokenRegion "a" 0 1 "b") := by
  have hvalid : List.Forall₂ Respaced ["a b", "a c"] ["\ta\u3000\u2003b", "a\u00a0c  "] :=
    .cons ⟨["a", "b"], by decide +kernel⟩ (.cons ⟨["a", "c"], by decide +kernel⟩ .nil)
  have hbroken : List.Forall₂ Respaced ["a b", "b a"] ["a\u2028 b", "\u0085b\x1ca"] :=
    .cons ⟨["a", "b"], by decide +kernel⟩ (.cons ⟨["b", "a"], by decide +kernel⟩ .nil)
  refine ⟨hvalid, ?_, hbroken, ?_⟩
  · exact (compile_respaced.2 _ _ hvalid).trans (by decide +kernel)
  · exact (compile_respaced.2 _ _ hbroken).trans (by decide +kernel)

end RegionGrid
