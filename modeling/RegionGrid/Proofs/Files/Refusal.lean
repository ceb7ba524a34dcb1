import RegionGrid.Files.Tree
import RegionGrid.Proofs.Checks
import Mathlib.Tactic.SplitIfs

/-!
# Spellings that are refused

No file has a NUL or a surrogate that stands for no byte in its path. A spelling with one of them is refused
before anything is looked up, and nothing else is: what is there decides about the other errors.
-/

namespace RegionGrid

variable {spelling : String} {path workingDirectory directory : Path} {tree : FileTree} {e : FileError}

namespace Path

theorem isRefusal_of_refusal? (hrefused : refusal? spelling = some e) : e.isRefusal = true := by
  rw [refusal?] at hrefused
  split_ifs at hrefused <;> cases hrefused <;> rfl

theorem failsWith_ofWholeSpelling_iff {P : FileError → Prop} :
    FailsWith P (ofWholeSpelling workingDirectory spelling) ↔ ∃ e, refusal? spelling = some e ∧ P e := by
  rw [ofWholeSpelling]
  cases refusal? spelling <;> simp

end Path

namespace FileTree

theorem not_failsWith_follow {step : Path → String → Path} {names : List String} :
    ¬ FailsWith (fun e => e.isRefusal = true) (tree.follow step directory names) := by
  induction names generalizing directory with
  | nil => exact not_failsWith_ok
  | cons name names ih =>
    rw [follow]
    split_ifs
    · exact failsWith_error_iff.not.mpr Bool.false_ne_true
    · exact ih
    · exact failsWith_error_iff.not.mpr Bool.false_ne_true
    · exact failsWith_error_iff.not.mpr Bool.false_ne_true

theorem failsWith_locate_iff :
    FailsWith (fun e => e.isRefusal = true) (tree.locate workingDirectory spelling) ↔
      (Path.refusal? spelling).isSome = true := by
  rw [locate]
  cases hrefusal : Path.refusal? spelling with
  | some e => simp [Path.isRefusal_of_refusal? hrefusal]
  | none =>
    refine iff_of_false ?_ Bool.false_ne_true
    dsimp only
    split_ifs
    · exact failsWith_error_iff.not.mpr Bool.false_ne_true
    all_goals exact not_failsWith_follow

theorem not_failsWith_write {bytes : List UInt8} :
    ¬ FailsWith (fun e => e.isRefusal = true) (tree.write path bytes) := by
  rw [write, failsWith_bind_iff, descend]
  rintro (hdescend | ⟨_, -, hwrite⟩)
  · split_ifs at hdescend
    · simp [FileError.isRefusal] at hdescend
    · exact not_failsWith_follow hdescend
  · split_ifs at hwrite
    · simp [FileError.isRefusal] at hwrite
    · exact not_failsWith_ok hwrite

end FileTree

end RegionGrid
