import Mathlib
import RegionGrid.Text.Blank
import RegionGrid.Text.Case
import RegionGrid.Text.Digit

/-!
# What lower case leaves alone

The letters beyond ASCII with a lower case, and their lower-case letters, keep to themselves: there are blocks
of code points without any of them, and every digit and every blank beyond ASCII is in one. The only letter of
ASCII among these lower cases is `k`. So in a text of digits, blanks and other characters of ASCII, lower case
is the lower case of ASCII alone.
-/

namespace RegionGrid

/-- First and last code points of blocks in which no letter has a lower case or is one. -/
def caselessBlocks : List (ℕ × ℕ) :=
  [(0x80, 0xbf), (0x600, 0x109f), (0x1400, 0x1c7f), (0x2000, 0x2125), (0x2d30, 0xa63f), (0xa800, 0xaaff),
   (0xabc0, 0xff20), (0x10450, 0x104af), (0x10d00, 0x1189f), (0x118e0, 0x16e3f), (0x16e80, 0x1e8ff),
   (0x1e944, 0x1ffff)]

def IsCaseless (n : ℕ) : Prop := ∃ block ∈ caselessBlocks, block.1 ≤ n ∧ n ≤ block.2

instance (n : ℕ) : Decidable (IsCaseless n) := inferInstanceAs (Decidable (∃ block ∈ caselessBlocks, _))

/-- The characters of ASCII but for `k`, which is `0x6b`, and the others that are in one of the blocks. -/
def StandsApart (c : Char) : Prop := c.toNat < 0x80 ∧ c.toNat ≠ 0x6b ∨ IsCaseless c.toNat

instance (c : Char) : Decidable (StandsApart c) := inferInstanceAs (Decidable (_ ∨ _))

def AvoidsBlocks (first last : ℕ) : Prop := ∀ block ∈ caselessBlocks, last < block.1 ∨ block.2 < first

instance (first last : ℕ) : Decidable (AvoidsBlocks first last) :=
  inferInstanceAs (Decidable (∀ block ∈ caselessBlocks, _))

theorem AvoidsBlocks.not_isCaseless {first last n : ℕ} (havoids : AvoidsBlocks first last) (hfirst : first ≤ n)
    (hlast : n ≤ last) : ¬ IsCaseless n := by
  rintro ⟨block, hblock, hle, hge⟩
  rcases havoids block hblock with hlt | hlt <;> omega

namespace CaseRun

def lowerFirst (run : CaseRun) : ℕ := (run.first + run.shift).toNat

def lowerLast (run : CaseRun) : ℕ := (run.last + run.shift).toNat

/-- Neither the letters of the run nor their lower cases stand apart. -/
def KeepsToItself (run : CaseRun) : Prop :=
  AvoidsBlocks run.first run.last ∧ AvoidsBlocks run.lowerFirst run.lowerLast ∧
    (0x80 ≤ run.lowerFirst ∨ run.lowerFirst = 0x6b ∧ run.lowerLast = 0x6b) ∧
      (run.lowerLast < 0xd800 ∨ 0xdfff < run.lowerFirst ∧ run.lowerLast < 0x110000)

instance (run : CaseRun) : Decidable run.KeepsToItself := inferInstanceAs (Decidable (_ ∧ _))

end CaseRun

theorem caseRuns_keepToThemselves : ∀ run ∈ caseRuns, run.last < 0x80 ∨ run.KeepsToItself := by
  decide +kernel

theorem lowerChar_eq_self_or {c : Char} (hc : 0x80 ≤ c.toNat) :
    lowerChar c = c ∨ ¬ StandsApart c ∧ ¬ StandsApart (lowerChar c) := by
  have hlarge : ¬ c.toNat < 0x80 := not_lt.mpr hc
  simp only [lowerChar, if_neg hlarge]
  split
  next run hrun =>
    right
    have hmem := List.mem_of_find?_eq_some hrun
    have hholds := List.find?_some hrun
    simp only [Bool.and_eq_true, decide_eq_true_eq] at hholds
    obtain ⟨⟨hfirst, hlast⟩, -⟩ := hholds
    obtain ⟨hletters, hlowers, hascii, hvalid⟩ :=
      (caseRuns_keepToThemselves run hmem).resolve_left (by omega)
    have hlowerFirst : run.lowerFirst ≤ (c.toNat + run.shift).toNat := Int.toNat_le_toNat (by omega)
    have hlowerLast : (c.toNat + run.shift).toNat ≤ run.lowerLast := Int.toNat_le_toNat (by omega)
    generalize (c.toNat + run.shift).toNat = lower at *
    have hlower : (Char.ofNat lower).toNat = lower := by
      have hisValid : lower.isValidChar := by
        unfold Nat.isValidChar
        omega
      rw [Char.toNat_ofNat, if_pos hisValid]
    constructor
    · rintro (⟨hlt, -⟩ | hcaseless)
      · omega
      · exact hletters.not_isCaseless hfirst hlast hcaseless
    · rintro (⟨hlt, hk⟩ | hcaseless)
      · rw [hlower] at hlt hk
        omega
      · rw [hlower] at hcaseless
        exact hlowers.not_isCaseless hlowerFirst hlowerLast hcaseless
  next => exact .inl rfl

theorem toLower_eq_self {c : Char} (hc : 0x80 ≤ c.toNat) : c.toLower = c := by
  apply Char.toLower_eq_of_not_isUpper
  simp [Char.isUpper, UInt32.le_iff_toNat_le]
  omega

theorem standsApart_of_isBlank {c : Char} (hc : isBlank c = true) : StandsApart c := by
  simp only [isBlank, Bool.or_eq_true, Bool.and_eq_true, decide_eq_true_eq, beq_iff_eq] at hc
  simp only [StandsApart, IsCaseless, caselessBlocks, List.exists_mem_cons_iff]
  omega

theorem zeroDigits_caseless : ∀ first ∈ zeroDigits, first ≠ 0x30 →
    ∃ block ∈ caselessBlocks, block.1 ≤ first ∧ first + 9 ≤ block.2 := by
  decide +kernel

theorem exists_zeroDigit {c : Char} (hc : isDecimalDigit c = true) :
    ∃ first ∈ zeroDigits, first ≤ c.toNat ∧ c.toNat < first + 10 := by
  simpa [isDecimalDigit, digitValue?] using hc

theorem standsApart_of_isDecimalDigit {c : Char} (hc : isDecimalDigit c = true) : StandsApart c := by
  obtain ⟨first, hmem, hfirst, hlast⟩ := exists_zeroDigit hc
  by_cases hascii : first = 0x30
  · exact .inl (by omega)
  · obtain ⟨block, hblock, hle, hge⟩ := zeroDigits_caseless first hmem hascii
    exact .inr ⟨block, hblock, by omega, by omega⟩

theorem isDecimalDigit_eq_false_of_isBlank {c : Char} (hc : isBlank c = true) : isDecimalDigit c = false := by
  have hdigits : ∀ first ∈ zeroDigits, ∀ i < 10, isBlank (Char.ofNat (first + i)) = false := by decide +kernel
  by_contra hdigit
  obtain ⟨first, hmem, hfirst, hlast⟩ := exists_zeroDigit (Bool.eq_true_of_not_eq_false hdigit)
  have hnot := hdigits first hmem (c.toNat - first) (by omega)
  rw [Nat.add_sub_cancel' hfirst, Char.ofNat_toNat, hc] at hnot
  cases hnot

namespace Chars

theorem exists_lowerAfter_cons (before : List Char) (c : Char) (text : List Char) :
    ∃ lower, lowerAfter before (c :: text) = lower ++ lowerAfter (c :: before) text ∧
      (lower = [c.toLower] ∨ ¬ StandsApart c.toLower ∧ ∃ d ∈ lower, ¬ StandsApart d) := by
  refine ⟨_, rfl, ?_⟩
  by_cases hdotted : c = '\u0130'
  · rw [hdotted]
    exact .inr ⟨by decide, '\u0307', by simp, by decide⟩
  · by_cases hsigma : c = '\u03a3'
    · rw [hsigma, if_neg (by decide), if_pos rfl]
      refine .inr ⟨by decide, _, List.mem_singleton.mpr rfl, ?_⟩
      split <;> decide
    · rw [if_neg hdotted, if_neg hsigma]
      rcases lt_or_ge c.toNat 0x80 with hascii | hbeyond
      · exact .inl (by rw [lowerChar, if_pos hascii])
      · rw [toLower_eq_self hbeyond]
        rcases lowerChar_eq_self_or hbeyond with hself | ⟨hc, hlower⟩
        · exact .inl (by rw [hself])
        · exact .inr ⟨hc, _, List.mem_singleton.mpr rfl, hlower⟩

/-- A text without letters beyond ASCII, as one of its two lower cases shows, has only one lower case. -/
theorem lowerAfter_eq_map_toLower {before text : List Char}
    (hapart : (∀ c ∈ text.map Char.toLower, StandsApart c) ∨ ∀ c ∈ lowerAfter before text, StandsApart c) :
    lowerAfter before text = text.map Char.toLower := by
  induction text generalizing before with
  | nil => rfl
  | cons c text ih =>
    obtain ⟨lower, hcons, hlower⟩ := exists_lowerAfter_cons before c text
    rw [hcons, List.map_cons, List.forall_mem_cons, List.forall_mem_append] at hapart
    rcases hlower with rfl | ⟨hc, d, hd, hforeign⟩
    · rw [hcons, ih (hapart.imp And.right And.right), List.map_cons, List.singleton_append]
    · rcases hapart with ⟨hc', -⟩ | ⟨hlower, -⟩
      · exact absurd hc' hc
      · exact absurd (hlower d hd) hforeign

end Chars

end RegionGrid
