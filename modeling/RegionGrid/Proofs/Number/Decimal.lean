import RegionGrid.Number.FloatText
import RegionGrid.Text.Digit
import RegionGrid.Proofs.Number.Rounding

/-!
# Decimal numbers

The digits that a number has in decimal tell its order, and read back as the number. Rounding to a count of
digits brings the number to the unit of its last digit and rounds that. Where the number is as good as equal
to one with few digits, rounding to so many digits finds that one.
-/

namespace RegionGrid

section Digits

variable {c : Char} {cs ds : List Char} {n : ℕ}

theorem digitValue?_of_isDigit (hc : c.isDigit = true) : digitValue? c = some (c.toNat - '0'.toNat) := by
  have hrange : 0x30 ≤ c.toNat ∧ c.toNat < 0x30 + 10 := by
    simp only [Char.isDigit, Bool.and_eq_true, decide_eq_true_eq, ge_iff_le, UInt32.le_iff_toNat_le] at hc
    exact ⟨hc.1, Nat.lt_succ_iff.mpr hc.2⟩
  rw [digitValue?, zeroDigits, List.find?_cons_of_pos (by simpa using hrange)]
  rfl

theorem isDecimalDigit_of_isDigit (hc : c.isDigit = true) : isDecimalDigit c = true := by
  rw [isDecimalDigit, digitValue?_of_isDigit hc, Option.isSome_some]

private theorem foldl_digits (n : ℕ) (cs : List Char) :
    cs.foldl (fun n c => 10 * n + (digitValue? c).getD 0) n = n * 10 ^ cs.length + digitsValue cs := by
  induction cs generalizing n with
  | nil => simp [digitsValue]
  | cons c cs ih =>
    rw [digitsValue, List.foldl_cons, List.foldl_cons, ih, ih (10 * 0 + _), List.length_cons]
    ring

theorem digitsValue_append : digitsValue (cs ++ ds) = digitsValue cs * 10 ^ ds.length + digitsValue ds := by
  rw [digitsValue, List.foldl_append, foldl_digits]
  rfl

theorem digitsValue_replicate_zero (n : ℕ) : digitsValue (List.replicate n '0') = 0 := by
  induction n with
  | zero => rfl
  | succ n ih => rw [List.replicate_succ', digitsValue_append, ih]; rfl

theorem digitsValue_toDigits (n : ℕ) : digitsValue (Nat.toDigits 10 n) = n := by
  have hvalue : ∀ cs : List Char, (∀ c ∈ cs, c.isDigit = true) → digitsValue cs = Nat.ofDigitChars 10 cs 0 := by
    intro cs hcs
    rw [Nat.ofDigitChars_eq_foldl, digitsValue]
    refine List.foldl_ext _ _ _ fun n c hc => ?_
    rw [digitValue?_of_isDigit (hcs c hc), Option.getD_some]
  rw [hvalue _ fun c hc => Nat.isDigit_of_mem_toDigits (by decide) le_rfl hc, Nat.ofDigitChars_ten_toDigits]

theorem lt_pow_length_toDigits (n : ℕ) : n < 10 ^ (Nat.toDigits 10 n).length :=
  (Nat.length_toDigits_le_iff (by decide) Nat.length_toDigits_pos).mp le_rfl

theorem pow_length_toDigits_le (hn : 0 < n) : 10 ^ ((Nat.toDigits 10 n).length - 1) ≤ n := by
  have hlength := Nat.length_toDigits_pos (b := 10) (n := n)
  rcases Nat.eq_zero_or_pos ((Nat.toDigits 10 n).length - 1) with hone | hmore
  · rw [hone]
    exact hn
  · by_contra hlt
    have hle := (Nat.length_toDigits_le_iff (by decide) hmore).mpr (not_le.mp hlt)
    omega

/-- The order of a number is the count of its digits less one. -/
theorem log_natCast_mul_zpow (hn : 0 < n) (e : ℤ) :
    Int.log 10 (n * 10 ^ e : ℚ) = (Nat.toDigits 10 n).length - 1 + e := by
  have hlow := pow_length_toDigits_le hn
  have hhigh := lt_pow_length_toDigits n
  obtain ⟨k, hk⟩ := Nat.exists_eq_add_of_lt (Nat.length_toDigits_pos (b := 10) (n := n))
  rw [hk, Nat.zero_add] at hlow hhigh ⊢
  have hlow : (10 : ℚ) ^ k ≤ n := by exact_mod_cast hlow
  have hhigh : (n : ℚ) < 10 ^ (k + 1) := by exact_mod_cast hhigh
  have hpow : (0 : ℚ) < 10 ^ e := zpow_pos (by norm_num) e
  have hexponent : ((k + 1 : ℕ) : ℤ) - 1 + e = k + e := by omega
  rw [hexponent]
  refine log_eq_of_between (by decide) ?_ ?_
  · rw [Nat.cast_ofNat, zpow_add₀ (by norm_num), zpow_natCast]
    gcongr
  · rw [Nat.cast_ofNat, add_right_comm, zpow_add₀ (by norm_num), ← Nat.cast_add_one, zpow_natCast]
    gcongr

end Digits

namespace Decimal

variable {num den digits : ℕ} {d : Decimal}

def size (d : Decimal) : ℚ := d.coefficient * 10 ^ d.exponent

theorem leadingExponent_eq_log (hd : 0 < d.coefficient) : d.leadingExponent = Int.log 10 d.size :=
  (log_natCast_mul_zpow hd d.exponent).symm

theorem order_eq_log (hnum : 0 < num) (hden : 0 < den) : order num den = Int.log 10 (num / den : ℚ) + 1 := by
  have hden' : (0 : ℚ) < den := by exact_mod_cast hden
  unfold order
  split_ifs with hle
  · have hwhole : 0 < num / den := Nat.div_pos hle hden
    have hlow := pow_length_toDigits_le hwhole
    have hhigh := lt_pow_length_toDigits (num / den)
    obtain ⟨k, hk⟩ := Nat.exists_eq_add_of_lt (Nat.length_toDigits_pos (b := 10) (n := num / den))
    rw [hk, Nat.zero_add] at hlow hhigh ⊢
    rw [Nat.add_sub_cancel, Nat.le_div_iff_mul_le hden, ← @Nat.cast_le ℚ] at hlow
    rw [Nat.div_lt_iff_lt_mul hden, ← @Nat.cast_lt ℚ] at hhigh
    have hlog : Int.log 10 (num / den : ℚ) = k := by
      refine log_eq_of_between (by decide) ?_ ?_
      · rw [le_div_iff₀ hden', zpow_natCast]
        exact_mod_cast hlow
      · rw [div_lt_iff₀ hden', ← Nat.cast_add_one, zpow_natCast]
        exact_mod_cast hhigh
    rw [hlog, Nat.cast_add_one]
  · -- What is left of the other quotient after one less is as far below a power of ten as the number is above.
    have hinverse : 0 < (den - 1) / num := Nat.div_pos (by omega) hnum
    have hlow := pow_length_toDigits_le hinverse
    have hhigh := lt_pow_length_toDigits ((den - 1) / num)
    obtain ⟨k, hk⟩ := Nat.exists_eq_add_of_lt (Nat.length_toDigits_pos (b := 10) (n := (den - 1) / num))
    rw [hk, Nat.zero_add] at hlow hhigh ⊢
    rw [Nat.add_sub_cancel, Nat.le_div_iff_mul_le hnum] at hlow
    rw [Nat.div_lt_iff_lt_mul hnum] at hhigh
    have hlow : (10 : ℚ) ^ k * num < den := by exact_mod_cast (by omega : 10 ^ k * num < den)
    have hhigh : (den : ℚ) ≤ 10 ^ (k + 1) * num := by exact_mod_cast (by omega : den ≤ 10 ^ (k + 1) * num)
    have hlog : Int.log 10 (num / den : ℚ) = -(k + 1 : ℕ) := by
      refine log_eq_of_between (by decide) ?_ ?_
      · rw [le_div_iff₀ hden', zpow_neg, zpow_natCast, inv_mul_le_iff₀ (by positivity)]
        exact hhigh
      · have hexponent : -((k + 1 : ℕ) : ℤ) + 1 = -k := by omega
        rw [div_lt_iff₀ hden', hexponent, zpow_neg, zpow_natCast, lt_inv_mul_iff₀ (by positivity)]
        exact hlow
    rw [hlog]
    omega

theorem isNearest_coefficient_rounded (num digits : ℕ) (hden : 0 < den) :
    IsNearest (num / den / 10 ^ (rounded digits num den).exponent) (rounded digits num den).coefficient := by
  unfold rounded
  generalize order num den - digits = e
  have hscaled : (num / den / 10 ^ e : ℚ) =
      (num * Nat.pow 10 (-e).toNat : ℕ) / (den * Nat.pow 10 e.toNat : ℕ) := by
    rw [← pow_toNat_div_pow_toNat, Nat.pow_eq, Nat.pow_eq]
    push_cast
    field_simp
  rw [hscaled]
  refine Binary64.isNearest_roundedQuotient ?_
  rw [Nat.pow_eq]
  positivity

theorem exponent_rounded (digits : ℕ) (hnum : 0 < num) (hden : 0 < den) :
    (rounded digits num den).exponent = Int.log 10 (num / den : ℚ) + 1 - digits := by
  rw [rounded, order_eq_log hnum hden]

/-- The coefficient has as many digits as are asked for, or is the power of ten that is next. -/
theorem coefficient_rounded_bounds (digits : ℕ) (hnum : 0 < num) (hden : 0 < den) :
    10 ^ digits ≤ (rounded (digits + 1) num den).coefficient ∧
      (rounded (digits + 1) num den).coefficient ≤ 10 ^ (digits + 1) := by
  have hden' : (0 : ℚ) < den := by exact_mod_cast hden
  have hpos : (0 : ℚ) < num / den := by positivity
  have hnearest := isNearest_coefficient_rounded num (digits + 1) hden
  rw [exponent_rounded _ hnum hden, Nat.cast_add_one, add_sub_add_right_eq_sub] at hnearest
  have hlow := Int.zpow_log_le_self (b := 10) (by decide) hpos
  have hhigh := Int.lt_zpow_succ_log_self (b := 10) (by decide) (num / den : ℚ)
  generalize Int.log 10 (num / den : ℚ) = order at *
  have hunit : (0 : ℚ) < 10 ^ (order - digits) := zpow_pos (by norm_num) _
  have hscale (n : ℕ) : ((10 ^ n : ℕ) : ℚ) * 10 ^ (order - digits) = 10 ^ (n + (order - digits)) := by
    rw [Nat.cast_pow, ← zpow_natCast, Nat.cast_ofNat, zpow_add₀ (by norm_num)]
  constructor
  · refine hnearest.le_of_le ?_
    rw [le_div_iff₀ hunit, hscale, add_sub_cancel]
    exact hlow
  · refine hnearest.ge_of_ge ?_
    rw [div_le_iff₀ hunit, hscale, Nat.cast_add_one, add_assoc, add_comm (1 : ℤ), ← add_assoc, add_sub_cancel]
    exact hhigh.le

/-- What is as near as a double to a number with six digits is rounded to it. -/
theorem size_rounded_of_near {c : ℕ} {e : ℤ} (hnum : 0 < num) (hden : 0 < den) (hdigits : c < 10 ^ 6)
    (hnear : |(num / den : ℚ) - c * 10 ^ e| ≤ c * 10 ^ e / 2 ^ 53) : (rounded 6 num den).size = c * 10 ^ e := by
  have hden' : (0 : ℚ) < den := by exact_mod_cast hden
  have hpos : (0 : ℚ) < num / den := by positivity
  have hnearest := isNearest_coefficient_rounded num 6 hden
  have hexponent := exponent_rounded 6 hnum hden
  have hhigh := Int.lt_zpow_succ_log_self (b := 10) (by decide) (num / den : ℚ)
  have hnear := abs_le.mp hnear
  have hlog : Int.log 10 (num / den : ℚ) < 6 + e := by
    have hunit : (0 : ℚ) < 10 ^ e := zpow_pos (by norm_num) e
    have hc : (c : ℚ) ≤ 10 ^ 6 - 1 := le_sub_iff_add_le.mpr (by exact_mod_cast hdigits)
    rw [← Int.lt_zpow_iff_log_lt (by decide) hpos, Nat.cast_ofNat, zpow_add₀ (by norm_num)]
    have hle : (c * 10 ^ e : ℚ) ≤ (10 ^ 6 - 1) * 10 ^ e := by gcongr
    norm_num at hle hnear ⊢
    linarith
  unfold size
  generalize (rounded 6 num den).coefficient = coefficient at *
  generalize (rounded 6 num den).exponent = unit at *
  -- In the unit of the last digit both numbers are a few millions at most, and less than a half apart.
  obtain ⟨k, hk⟩ := Int.eq_ofNat_of_zero_le (show 0 ≤ e - unit by omega)
  have hsame : (c * 10 ^ e : ℚ) = (c * 10 ^ k : ℕ) * 10 ^ unit := by
    have he : e = k + unit := by omega
    rw [he, zpow_add₀ (by norm_num), zpow_natCast, ← mul_assoc]
    norm_cast
  have hunit : (0 : ℚ) < 10 ^ unit := zpow_pos (by norm_num) unit
  have hhigh : (num / den : ℚ) < 10 ^ 6 * 10 ^ unit := by
    have hlog' : Int.log 10 (num / den : ℚ) + 1 = 6 + unit := by omega
    rwa [hlog', Nat.cast_ofNat, zpow_add₀ (by norm_num)] at hhigh
  rw [hsame] at hnear ⊢
  generalize c * 10 ^ k = whole at *
  have hwhole : (whole : ℚ) < 2 * 10 ^ 6 := by
    refine lt_of_mul_lt_mul_right ?_ hunit.le
    norm_num at hnear hhigh ⊢
    linarith
  have hnearest' : IsNearest (num / den / 10 ^ unit) whole := by
    refine .of_abs_sub_lt ?_
    have hsub : (num / den / 10 ^ unit - whole : ℚ) = (num / den - whole * 10 ^ unit) / 10 ^ unit := by
      field_simp
    rw [hsub, abs_div, abs_of_pos hunit, div_lt_iff₀ hunit]
    refine (abs_le.mpr hnear).trans_lt ?_
    have hlt : (whole * 10 ^ unit : ℚ) < 2 * 10 ^ 6 * 10 ^ unit := by gcongr
    norm_num at hlt ⊢
    linarith
  rw [hnearest.unique hnearest']

end Decimal

end RegionGrid
