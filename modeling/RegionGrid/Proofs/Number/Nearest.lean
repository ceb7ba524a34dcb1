import RegionGrid.Proofs.Number.Rounding

/-!
# The double nearest to a quotient

A positive number lies between two powers of two, and that gives the weight of the last bit of a double near
to it. In units of that weight the number is rounded to a whole one, which is the mantissa; where this reaches
the next power of two, the exponent grows by one. So the pattern that is found depends on the number alone,
not on the quotient that it is given by, and it is that of infinity from one fixed number on.
-/

namespace RegionGrid.Binary64

variable {num den mantissa : ℕ} {negative : Bool}

/-- The weight of the last bit of the doubles around a positive number. -/
def lastBitOf (r : ℚ) : ℤ := max (Int.log 2 r - 52) (-1074)

/-- The difference of the orders of numerator and denominator is that of the quotient or one more. -/
private theorem quotient_between (hnum : 0 < num) (hden : 0 < den) :
    (2 : ℚ) ^ ((num.log2 : ℤ) - den.log2 - 1) < num / den ∧
      (num / den : ℚ) < 2 ^ ((num.log2 : ℤ) - den.log2 + 1) := by
  have hden' : (0 : ℚ) < den := by exact_mod_cast hden
  have hnumLow : (2 : ℚ) ^ num.log2 ≤ num := by exact_mod_cast Nat.log2_self_le hnum.ne'
  have hnumHigh : (num : ℚ) < 2 ^ (num.log2 + 1) := by exact_mod_cast Nat.lt_log2_self
  have hdenLow : (2 : ℚ) ^ den.log2 ≤ den := by exact_mod_cast Nat.log2_self_le hden.ne'
  have hdenHigh : (den : ℚ) < 2 ^ (den.log2 + 1) := by exact_mod_cast Nat.lt_log2_self
  constructor
  · calc
      (2 : ℚ) ^ ((num.log2 : ℤ) - den.log2 - 1) = 2 ^ num.log2 / 2 ^ (den.log2 + 1) := by
        rw [← zpow_natCast, ← zpow_natCast, ← zpow_sub₀ two_ne_zero, Nat.cast_add_one, sub_sub]
      _ < 2 ^ num.log2 / den := by gcongr
      _ ≤ num / den := by gcongr
  · calc
      (num / den : ℚ) < 2 ^ (num.log2 + 1) / den := by gcongr
      _ ≤ 2 ^ (num.log2 + 1) / 2 ^ den.log2 := by gcongr
      _ = 2 ^ ((num.log2 : ℤ) - den.log2 + 1) := by
        rw [← zpow_natCast, ← zpow_natCast, ← zpow_sub₀ two_ne_zero, Nat.cast_add_one, sub_add_eq_add_sub]

theorem lastBit_eq (hnum : 0 < num) (hden : 0 < den) : lastBit num den = lastBitOf (num / den) := by
  have hden' : (0 : ℚ) < den := by exact_mod_cast hden
  have hpos : (0 : ℚ) < num / den := by positivity
  obtain ⟨hlow, hhigh⟩ := quotient_between hnum hden
  set order : ℤ := num.log2 - den.log2 with horder
  have hreaches : den <<< order.toNat ≤ num <<< (-order).toNat ↔ (2 : ℚ) ^ order ≤ num / den := by
    rw [Nat.shiftLeft_eq, Nat.shiftLeft_eq, ← pow_toNat_div_pow_toNat, div_le_div_iff₀ (by positivity) hden',
      ← @Nat.cast_le ℚ, mul_comm]
    push_cast
    rfl
  simp only [lastBit, ← horder, hreaches, lastBitOf]
  split_ifs with hle
  · rw [log_eq_of_between one_lt_two hle hhigh]
  · have hlt : (num / den : ℚ) < 2 ^ (order - 1 + 1) := by
      rw [sub_add_cancel]
      exact not_le.mp hle
    rw [log_eq_of_between one_lt_two hlow.le hlt]
    congr 1
    omega

/-- A positive number in units of its last bit, which make 53 bits unless it is very small. -/
theorem units_between {r : ℚ} (hr : 0 < r) :
    r / 2 ^ lastBitOf r < 2 ^ 53 ∧ (-1074 < lastBitOf r → 2 ^ 52 ≤ r / 2 ^ lastBitOf r) := by
  have hpos : (0 : ℚ) < 2 ^ lastBitOf r := zpow_pos two_pos _
  constructor
  · rw [div_lt_iff₀ hpos]
    have hlt : r < 2 ^ (Int.log 2 r + 1) := by exact_mod_cast Int.lt_zpow_succ_log_self one_lt_two r
    have hexponent : Int.log 2 r + 1 ≤ 53 + lastBitOf r := by
      unfold lastBitOf
      omega
    calc
      r < 2 ^ (Int.log 2 r + 1) := hlt
      _ ≤ 2 ^ (53 + lastBitOf r) := zpow_le_zpow_right₀ one_le_two hexponent
      _ = 2 ^ 53 * 2 ^ lastBitOf r := by rw [zpow_add₀ two_ne_zero]; norm_cast
  · intro hnormal
    rw [le_div_iff₀ hpos]
    have hle : 2 ^ Int.log 2 r ≤ r := by exact_mod_cast Int.zpow_log_le_self one_lt_two hr
    have hexponent : 52 + lastBitOf r = Int.log 2 r := by
      unfold lastBitOf at *
      omega
    calc
      (2 ^ 52 * 2 ^ lastBitOf r : ℚ) = 2 ^ (52 + lastBitOf r) := by
        rw [zpow_add₀ two_ne_zero]; norm_cast
      _ ≤ r := hexponent ▸ hle

theorem units_bounds {r : ℚ} {q : ℕ} (hr : 0 < r) (hq : IsNearest (r / 2 ^ lastBitOf r) q) :
    q ≤ 2 ^ 53 ∧ (-1074 < lastBitOf r → 2 ^ 52 ≤ q) := by
  obtain ⟨hhigh, hlow⟩ := units_between hr
  constructor
  · exact hq.ge_of_ge (by exact_mod_cast hhigh.le)
  · intro hnormal
    exact hq.le_of_le (by exact_mod_cast hlow hnormal)

theorem nearestBits_eq (hnum : 0 < num) (hden : 0 < den) {q : ℕ}
    (hq : IsNearest (num / den / 2 ^ lastBitOf (num / den)) q) :
    nearestBits num den = min ((lastBitOf (num / den) + 1074).toNat * 2 ^ 52 + q) (0x7ff * 2 ^ 52) := by
  have hden' : (0 : ℚ) < den := by exact_mod_cast hden
  have hpos : (0 : ℚ) < num / den := by positivity
  rw [nearestBits, if_neg hnum.ne']
  split_ifs with hlarge
  · -- So large a number has a last bit too heavy for the format, whatever the mantissa.
    have hlog : 1024 ≤ Int.log 2 (num / den : ℚ) := by
      rw [← Int.zpow_le_iff_le_log one_lt_two hpos]
      refine le_trans ?_ (quotient_between hnum hden).1.le
      rw [Nat.cast_ofNat]
      exact zpow_le_zpow_right₀ one_le_two (by omega)
    have hweight : 972 ≤ lastBitOf (num / den) := by
      unfold lastBitOf
      omega
    have hq' := (units_bounds hpos hq).2 (by omega)
    rw [Nat.shiftLeft_eq, min_eq_right]
    omega
  · have hscaled : scaledQuotient num den (lastBitOf (num / den)) = q :=
      (isNearest_scaledQuotient _ _ hden).unique hq
    simp only [lastBit_eq hnum hden, hscaled, Nat.shiftLeft_eq]

/-- The pattern depends on the number alone, not on the quotient that it is given by. -/
theorem nearestBits_congr {num' den' : ℕ} (hden : 0 < den) (hden' : 0 < den')
    (hsame : (num / den : ℚ) = num' / den') : nearestBits num den = nearestBits num' den' := by
  have hzero : num = 0 ↔ num' = 0 := by
    have hden₀ : (den : ℚ) ≠ 0 := by exact_mod_cast hden.ne'
    have hden₀' : (den' : ℚ) ≠ 0 := by exact_mod_cast hden'.ne'
    constructor
    · intro hnum
      rw [hnum, Nat.cast_zero, zero_div, eq_comm, div_eq_zero_iff, or_iff_left hden₀'] at hsame
      exact_mod_cast hsame
    · intro hnum
      rw [hnum, Nat.cast_zero, zero_div, div_eq_zero_iff, or_iff_left hden₀] at hsame
      exact_mod_cast hsame
  rcases Nat.eq_zero_or_pos num with hnum | hnum
  · rw [nearestBits, nearestBits, if_pos hnum, if_pos (hzero.mp hnum)]
  · have hnum' : 0 < num' := Nat.pos_of_ne_zero (mt hzero.mpr hnum.ne')
    have hq := isNearest_scaledQuotient num (lastBitOf (num / den)) hden
    rw [nearestBits_eq hnum hden hq]
    rw [hsame] at hq ⊢
    exact (nearestBits_eq hnum' hden' hq).symm

/-- The end of the format and the weights around it, in units of half of the last bit of its last number. -/
private theorem exists_unit : ∃ p : ℚ, 0 < p ∧ 2 ^ 1024 - 2 ^ 970 = (2 ^ 54 - 1) * p ∧
    2 ^ (970 : ℤ) = p ∧ 2 ^ (971 : ℤ) = 2 * p ∧ 2 ^ (972 : ℤ) = 4 * p := by
  refine ⟨2 ^ 970, pow_pos two_pos _, ?_, zpow_ofNat _ _, ?_, ?_⟩
  · rw [show (1024 : ℕ) = 54 + 970 from rfl, pow_add, sub_one_mul]
  · rw [zpow_ofNat, show (971 : ℕ) = 970 + 1 from rfl, pow_succ']
  · rw [zpow_ofNat, show (972 : ℕ) = 2 + 970 from rfl, pow_add]
    norm_num

/-- From the last number of the format and half of its last bit on, infinity is nearer. -/
theorem nearestBits_lt_iff (hnum : 0 < num) (hden : 0 < den) :
    nearestBits num den < 0x7ff * 2 ^ 52 ↔ (num / den : ℚ) < 2 ^ 1024 - 2 ^ 970 := by
  have hden' : (0 : ℚ) < den := by exact_mod_cast hden
  have hpos : (0 : ℚ) < num / den := by positivity
  have hq := isNearest_scaledQuotient num (lastBitOf (num / den)) hden
  rw [nearestBits_eq hnum hden hq, min_lt_iff, or_iff_left (lt_irrefl _)]
  generalize scaledQuotient num den _ = q at hq
  generalize (num / den : ℚ) = r at *
  obtain ⟨hhigh, hlow⟩ := units_between hpos
  obtain ⟨hqHigh, hqLow⟩ := units_bounds hpos hq
  have hleast : -1074 ≤ lastBitOf r := le_max_right _ _
  generalize hw : lastBitOf r = w at *
  have hpow : (0 : ℚ) < 2 ^ w := zpow_pos two_pos _
  obtain ⟨p, hp, hlimit, h970, h971, h972⟩ := exists_unit
  rw [hlimit]
  rcases lt_trichotomy w 971 with hlt | rfl | hgt
  · refine iff_of_true (by omega) ?_
    rw [div_lt_iff₀ hpow] at hhigh
    have hw : (2 : ℚ) ^ w ≤ p := h970 ▸ zpow_le_zpow_right₀ one_le_two (by omega)
    generalize (2 : ℚ) ^ w = u at *
    linarith only [hhigh, hw, hp]
  · have hhalf := hq.even_le_iff (m := 2 ^ 53) (by decide)
    have hreaches : (971 + 1074 : ℤ).toNat * 2 ^ 52 + q < 0x7ff * 2 ^ 52 ↔ ¬ 2 ^ 53 ≤ q := by omega
    rw [hreaches, hhalf, not_le, h971, div_lt_iff₀ (by positivity)]
    push_cast
    constructor <;> intro hlt <;> linarith
  · have hqLow := hqLow (by omega)
    refine iff_of_false (by omega) (not_lt.mpr ?_)
    have hlow := hlow (by omega)
    rw [le_div_iff₀ hpow] at hlow
    have hw : 4 * p ≤ (2 : ℚ) ^ w := h972 ▸ zpow_le_zpow_right₀ one_le_two (by omega)
    generalize (2 : ℚ) ^ w = u at *
    linarith only [hlow, hw, hp]

theorem nearestBits_of_ge (hnum : 0 < num) (hden : 0 < den) (hlarge : (2 ^ 1024 - 2 ^ 970 : ℚ) ≤ num / den) :
    nearestBits num den = 0x7ff * 2 ^ 52 := by
  have hq := isNearest_scaledQuotient num (lastBitOf (num / den)) hden
  have hge := mt (nearestBits_lt_iff hnum hden).mp (not_lt.mpr hlarge)
  rw [nearestBits_eq hnum hden hq] at hge ⊢
  omega

/-- No double is near to a whole number that is nearer to infinity. -/
theorem ofInt?_eq_none_iff {n : ℤ} : ofInt? n = none ↔ 2 ^ 1024 - 2 ^ 970 ≤ n.natAbs := by
  have hnone : ofInt? n = none ↔ ¬ nearestBits n.natAbs 1 < 0x7ff * 2 ^ 52 := by
    have hlimit : 0x7ff <<< 52 = 0x7ff * 2 ^ 52 := Nat.shiftLeft_eq _ _
    rw [ofInt?, hlimit]
    by_cases hlt : nearestBits n.natAbs 1 < 0x7ff * 2 ^ 52
    · rw [if_pos hlt]
      exact iff_of_false (Option.some_ne_none _) (not_not.mpr hlt)
    · rw [if_neg hlt]
      exact iff_of_true rfl hlt
  rw [hnone]
  rcases Nat.eq_zero_or_pos n.natAbs with hzero | hpos
  · rw [hzero]
    decide +kernel
  · rw [nearestBits_lt_iff hpos one_pos, not_lt, Nat.cast_one, div_one, sub_le_iff_le_add,
      tsub_le_iff_right, ← @Nat.cast_le ℚ, Nat.cast_add, Nat.cast_pow, Nat.cast_pow, Nat.cast_ofNat]

theorem nearestBits_of_le (hnum : 0 < num) (hden : 0 < den) (hsmall : (num / den : ℚ) ≤ 2 ^ (-1075 : ℤ)) :
    nearestBits num den = 0 := by
  have hden' : (0 : ℚ) < den := by exact_mod_cast hden
  have hpos : (0 : ℚ) < num / den := by positivity
  have hlog : Int.log 2 (num / den : ℚ) < -1074 := by
    rw [← Int.lt_zpow_iff_log_lt one_lt_two hpos]
    exact hsmall.trans_lt (zpow_lt_zpow_right₀ one_lt_two (by decide))
  have hweight : lastBitOf (num / den) = -1074 := by
    unfold lastBitOf
    omega
  have hhalf : (num / den / 2 ^ (-1074 : ℤ) : ℚ) ≤ 1 / 2 := by
    rw [div_le_iff₀ (zpow_pos two_pos _)]
    refine hsmall.trans_eq ?_
    rw [show (-1075 : ℤ) = -1 + -1074 from rfl, zpow_add₀ two_ne_zero, zpow_neg_one, one_div]
  have hq : IsNearest (num / den / 2 ^ lastBitOf (num / den)) 0 := by
    rw [hweight]
    have hnonneg : (0 : ℚ) ≤ num / den / 2 ^ (-1074 : ℤ) := div_nonneg hpos.le (zpow_pos two_pos _).le
    refine ⟨?_, fun _ => Even.zero⟩
    rwa [Nat.cast_zero, sub_zero, abs_of_nonneg hnonneg]
  rw [nearestBits_eq hnum hden hq, hweight]
  rfl

end RegionGrid.Binary64
