import RegionGrid.Number.Numeral
import RegionGrid.Proofs.Number.Decimal
import RegionGrid.Proofs.Number.Pattern

/-!
# Numerals and what they stand for

A numeral is read up to where its digits end, whatever comes then. The double that it stands for is the one
nearest to its exact size, also where the numeral is so far out of range that its digits are not looked at.
-/

namespace RegionGrid

namespace Numeral

def size (n : Numeral) : ℚ := n.coefficient * 10 ^ n.exponent

private theorem two_pow_le_ten_pow : 2 ^ 1075 ≤ 10 ^ 330 := by decide +kernel

private theorem ten_zpow_le_two_zpow : (10 ^ (-330 : ℤ) : ℚ) ≤ 2 ^ (-1075 : ℤ) := by
  have hpow : (2 ^ 1075 : ℚ) ≤ 10 ^ 330 := by exact_mod_cast two_pow_le_ten_pow
  rw [zpow_neg, zpow_neg, zpow_ofNat, zpow_ofNat]
  exact inv_anti₀ (pow_pos two_pos _) hpow

private theorem two_pow_sub_le_ten_zpow : (2 ^ 1024 - 2 ^ 970 : ℚ) ≤ 10 ^ (310 : ℤ) := by
  have hpow : (2 ^ 1024 : ℚ) ≤ 10 ^ 310 := by exact_mod_cast (by decide +kernel : 2 ^ 1024 ≤ 10 ^ 310)
  rw [zpow_ofNat]
  exact (sub_le_self _ (pow_pos two_pos _).le).trans hpow

theorem toFloat_eq_nearest {n : Numeral} {num den : ℕ} (hden : 0 < den) (hsize : n.size = num / den) :
    n.toFloat = Binary64.nearest n.negative num den := by
  have hden' : (0 : ℚ) < den := by exact_mod_cast hden
  suffices hpattern : ∃ num' den', n.toFloat = Binary64.nearest n.negative num' den' ∧
      Binary64.nearestBits num' den' = Binary64.nearestBits num den by
    obtain ⟨num', den', hfloat, hbits⟩ := hpattern
    rw [hfloat, Binary64.nearest, Binary64.nearest, hbits]
  rcases Nat.eq_zero_or_pos n.coefficient with hzero | hpos
  · have hnum : num = 0 := by
      rw [size, hzero, Nat.cast_zero, zero_mul, eq_comm, div_eq_zero_iff, or_iff_left hden'.ne'] at hsize
      exact_mod_cast hsize
    refine ⟨0, 1, ?_, ?_⟩
    · rw [toFloat, if_pos (.inl hzero)]
    · rw [hnum]
      rfl
  · have hsizePos : 0 < n.size := mul_pos (by exact_mod_cast hpos) (zpow_pos (by norm_num) _)
    have hnum : 0 < num := by
      rw [hsize, div_pos_iff_of_pos_right hden'] at hsizePos
      exact_mod_cast hsizePos
    have hlog : Int.log 10 n.size = (Nat.toDigits 10 n.coefficient).length - 1 + n.exponent :=
      log_natCast_mul_zpow hpos n.exponent
    simp only [toFloat, hpos.ne', false_or]
    split_ifs with htiny hhuge
    · refine ⟨0, 1, rfl, ?_⟩
      have hsmall := (Int.lt_zpow_iff_log_lt (b := 10) (x := -330) (by decide) hsizePos).mpr (by omega)
      rw [Nat.cast_ofNat, hsize] at hsmall
      exact (Binary64.nearestBits_of_le hnum hden (hsmall.le.trans ten_zpow_le_two_zpow)).symm
    · refine ⟨1 <<< 1025, 1, rfl, ?_⟩
      have hlarge := (Int.zpow_le_iff_le_log (b := 10) (x := 310) (by decide) hsizePos).mpr (by omega)
      rw [Nat.cast_ofNat, hsize] at hlarge
      rw [Binary64.nearestBits_of_ge hnum hden (two_pow_sub_le_ten_zpow.trans hlarge)]
      decide +kernel
    · refine ⟨_, _, rfl, ?_⟩
      refine Binary64.nearestBits_congr (Nat.pow_pos (by decide)) hden ?_
      rw [← hsize, size, ← pow_toNat_div_pow_toNat, Nat.pow_eq, Nat.pow_eq]
      push_cast
      ring

theorem exists_quotient (n : Numeral) : ∃ num den : ℕ, 0 < den ∧ n.size = num / den := by
  refine ⟨n.coefficient * 10 ^ n.exponent.toNat, 10 ^ (-n.exponent).toNat, by positivity, ?_⟩
  rw [size, ← pow_toNat_div_pow_toNat]
  push_cast
  ring

theorem toFloat_congr {m n : Numeral} (hsign : m.negative = n.negative) (hsize : m.size = n.size) :
    m.toFloat = n.toFloat := by
  obtain ⟨num, den, hden, hquotient⟩ := n.exists_quotient
  rw [toFloat_eq_nearest hden hquotient, toFloat_eq_nearest hden (hsize.trans hquotient), hsign]

/-- A numeral as it is written, with a point only where digits follow. -/
def written (negative : Bool) (whole fraction : List Char) : List Char :=
  (if negative then ['-'] else []) ++ (whole ++ if fraction = [] then [] else '.' :: fraction)

variable {negative : Bool} {whole fraction digits rest : List Char}

private theorem span_digits_append (hdigits : ∀ c ∈ digits, isDecimalDigit c = true)
    (hrest : ∀ c ∈ rest.head?, isDecimalDigit c = false) :
    (digits ++ rest).span isDecimalDigit = (digits, rest) := by
  have hstop : rest.takeWhile isDecimalDigit = [] ∧ rest.dropWhile isDecimalDigit = rest := by
    cases rest with
    | nil => exact ⟨rfl, rfl⟩
    | cons c rest => simp [hrest c rfl]
  rw [List.span_eq_takeWhile_dropWhile, List.takeWhile_append_of_pos hdigits,
    List.dropWhile_append_of_pos hdigits, hstop.1, hstop.2, List.append_nil]

/-- A numeral is read whole, and what follows it is left. -/
theorem read?_written (hwhole : whole ≠ []) (hwholeDigits : ∀ c ∈ whole, isDecimalDigit c = true)
    (hfractionDigits : ∀ c ∈ fraction, isDecimalDigit c = true)
    (hrest : ∀ c ∈ rest.head?, isDecimalDigit c = false ∧ c ≠ '.') :
    read? (written negative whole fraction ++ rest) = some (ofDigits negative whole fraction 0, rest) := by
  have hpoint : isDecimalDigit '.' = false := by decide +kernel
  have hminus : isDecimalDigit '-' = false := by decide +kernel
  let unsigned := whole ++ ((if fraction = [] then [] else '.' :: fraction) ++ rest)
  have hsign : ((written negative whole fraction ++ rest).head? == some '-') = negative := by
    obtain ⟨first, more, rfl⟩ := List.exists_cons_of_ne_nil hwhole
    have hfirst : first ≠ '-' := by
      rintro rfl
      rw [hwholeDigits _ List.mem_cons_self] at hminus
      cases hminus
    cases negative <;> simp [written, hfirst]
  have hunsigned : (if negative then (written negative whole fraction ++ rest).tail
      else written negative whole fraction ++ rest) = unsigned := by
    cases negative <;> simp [written, unsigned]
  have hspan : unsigned.span isDecimalDigit =
      (whole, (if fraction = [] then [] else '.' :: fraction) ++ rest) := by
    refine span_digits_append hwholeDigits fun c hc => ?_
    split_ifs at hc with hfraction
    · exact (hrest c hc).1
    · cases hc
      exact hpoint
  simp only [read?, hsign, hunsigned, hspan, List.isEmpty_iff, hwhole, if_false]
  by_cases hfraction : fraction = []
  · subst hfraction
    simp only [if_true, List.nil_append]
    split
    · next more =>
      exact absurd rfl (hrest '.' rfl).2
    · rfl
  · have hspan' := span_digits_append hfractionDigits fun c hc => (hrest c hc).1
    simp only [hfraction, if_false, List.cons_append, hspan']

end Numeral

end RegionGrid
