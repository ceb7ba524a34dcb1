import RegionGrid.Proofs.Number.Numeral

/-!
# The rounded text as a numeral

A decimal number that is written by places alone is written as a numeral of the same size: the zeros that are
put in and those that are left out only move the point. One written with an exponent starts with a numeral too,
but the exponent follows it.
-/

namespace RegionGrid

open Numeral (written)

namespace Decimal

variable {d : Decimal} {digits : List Char}

theorem exists_toDigits_eq (d : Decimal) :
    ∃ k, Nat.toDigits 10 d.coefficient = d.significantDigits ++ List.replicate k '0' := by
  let zeros := (Nat.toDigits 10 d.coefficient).reverse.takeWhile (· == '0')
  have hzeros : zeros = List.replicate zeros.length '0' :=
    List.eq_replicate_of_mem fun c hc => by simpa using List.mem_takeWhile_imp hc
  refine ⟨zeros.length, ?_⟩
  calc
    Nat.toDigits 10 d.coefficient = (zeros ++ d.significantDigits.reverse).reverse := by
      rw [significantDigits, List.reverse_reverse, List.takeWhile_append_dropWhile, List.reverse_reverse]
    _ = d.significantDigits ++ List.replicate zeros.length '0' := by
      rw [List.reverse_append, List.reverse_reverse, hzeros, List.reverse_replicate, List.length_replicate]

theorem isDigit_of_mem_significantDigits {c : Char} (hc : c ∈ d.significantDigits) : c.isDigit = true := by
  obtain ⟨k, hk⟩ := d.exists_toDigits_eq
  refine Nat.isDigit_of_mem_toDigits (n := d.coefficient) (by decide) le_rfl ?_
  rw [hk]
  exact List.mem_append_left _ hc

theorem significantDigits_ne_nil (hd : 0 < d.coefficient) : d.significantDigits ≠ [] := by
  intro hnil
  obtain ⟨k, hk⟩ := d.exists_toDigits_eq
  have hvalue := congrArg digitsValue hk
  rw [digitsValue_toDigits, hnil, List.nil_append, digitsValue_replicate_zero] at hvalue
  exact hd.ne' hvalue

/-- The significant digits with the first one at its place. -/
theorem size_eq_significantDigits (d : Decimal) :
    d.size = digitsValue d.significantDigits * 10 ^ (d.leadingExponent + 1 - d.significantDigits.length) := by
  obtain ⟨k, hk⟩ := d.exists_toDigits_eq
  have hvalue := congrArg digitsValue hk
  rw [digitsValue_toDigits, digitsValue_append, digitsValue_replicate_zero, List.length_replicate,
    Nat.add_zero] at hvalue
  have hplace : d.leadingExponent + 1 - d.significantDigits.length = k + d.exponent := by
    rw [leadingExponent, hk, List.length_append, List.length_replicate]
    push_cast
    ring
  rw [size, hvalue, hplace, zpow_add₀ (by norm_num), zpow_natCast, ← mul_assoc]
  push_cast
  rfl

/-- Digits with zeros on both sides: those behind them count, and the point takes that back. -/
private theorem padded {whole fraction : List Char} (before behind : ℕ) {exponent : ℤ}
    (hall : ∀ c ∈ digits, c.isDigit = true)
    (hparts : whole ++ fraction = List.replicate before '0' ++ (digits ++ List.replicate behind '0'))
    (hplace : (behind : ℤ) - fraction.length = exponent + 1 - digits.length) :
    (∀ c ∈ whole ++ fraction, c.isDigit = true) ∧
      (digitsValue (whole ++ fraction) * 10 ^ (-fraction.length : ℤ) : ℚ) =
        digitsValue digits * 10 ^ (exponent + 1 - digits.length) := by
  constructor
  · intro c hc
    rw [hparts, List.mem_append, List.mem_append] at hc
    rcases hc with hc | hc | hc
    · exact List.eq_of_mem_replicate hc ▸ rfl
    · exact hall c hc
    · exact List.eq_of_mem_replicate hc ▸ rfl
  · have hvalue : digitsValue (whole ++ fraction) = digitsValue digits * 10 ^ behind := by
      rw [hparts, digitsValue_append, digitsValue_append, digitsValue_replicate_zero, digitsValue_replicate_zero,
        List.length_replicate, zero_mul, zero_add, add_zero]
    rw [hvalue, ← hplace, sub_eq_add_neg, zpow_add₀ (by norm_num), zpow_natCast, ← mul_assoc]
    push_cast
    rfl

theorem exists_written_eq_placed (hdigits : digits ≠ []) (hall : ∀ c ∈ digits, c.isDigit = true) (exponent : ℤ) :
    ∃ whole fraction : List Char, (placed digits exponent "").toList = written false whole fraction ∧
      whole ≠ [] ∧ (∀ c ∈ whole ++ fraction, c.isDigit = true) ∧
      (digitsValue (whole ++ fraction) * 10 ^ (-fraction.length : ℤ) : ℚ) =
        digitsValue digits * 10 ^ (exponent + 1 - digits.length) := by
  have hlength := List.length_pos_of_ne_nil hdigits
  by_cases hnegative : exponent < 0
  · refine ⟨['0'], List.replicate (-exponent - 1).toNat '0' ++ digits, ?_, by simp, ?_⟩
    · simp [placed, if_pos hnegative, written, hdigits]
    · refine padded ((-exponent - 1).toNat + 1) 0 hall ?_ ?_
      · simp [List.replicate_succ]
      · rw [List.length_append, List.length_replicate]
        omega
  · by_cases hwhole : digits.length ≤ exponent.toNat + 1
    · refine ⟨digits ++ List.replicate (exponent.toNat + 1 - digits.length) '0', [], ?_, by simp [hdigits], ?_⟩
      · simp [placed, if_neg hnegative, hwhole, written]
      · refine padded 0 (exponent.toNat + 1 - digits.length) hall ?_ ?_
        · simp
        · rw [List.length_nil]
          omega
    · refine ⟨digits.take (exponent.toNat + 1), digits.drop (exponent.toNat + 1), ?_, by simp [hdigits], ?_⟩
      · have hdrop : digits.drop (exponent.toNat + 1) ≠ [] := by simpa using hwhole
        simp [placed, if_neg hnegative, hwhole, written, hdrop]
      · refine padded 0 0 hall ?_ ?_
        · simp
        · rw [List.length_drop]
          omega

theorem exists_written_eq_text (hd : 0 < d.coefficient)
    (hplaces : -4 ≤ d.leadingExponent ∧ d.leadingExponent ≤ 5) :
    ∃ whole fraction : List Char, (d.text roundedStyle).toList = written false whole fraction ∧
      whole ≠ [] ∧ (∀ c ∈ whole ++ fraction, c.isDigit = true) ∧
      (Numeral.ofDigits false whole fraction 0).size = d.size := by
  obtain ⟨whole, fraction, htext, hwhole, hall, hsize⟩ := exists_written_eq_placed
    (significantDigits_ne_nil hd) (fun _ => isDigit_of_mem_significantDigits) d.leadingExponent
  refine ⟨whole, fraction, ?_, hwhole, hall, ?_⟩
  · have hplaced : d.text roundedStyle = placed d.significantDigits d.leadingExponent "" := if_pos hplaces
    rw [hplaced, htext]
  · rw [size_eq_significantDigits, ← hsize, Numeral.size, Numeral.ofDigits, zero_sub]

theorem exists_toList_exponentText (exponent : ℤ) :
    ∃ tail, (exponentText exponent).toList = 'e' :: tail ∧
      ∀ c ∈ tail, c.isDigit = true ∨ c = '+' ∨ c = '-' := by
  let zero := if exponent.natAbs < 10 then ['0'] else []
  refine ⟨(if exponent < 0 then '-' else '+') :: (zero ++ Nat.toDigits 10 exponent.natAbs), ?_, ?_⟩
  · have hsign : (if exponent < 0 then "e-" else "e+").toList = ['e', if exponent < 0 then '-' else '+'] := by
      split <;> rfl
    have hzero : (if exponent.natAbs < 10 then "0" else "").toList = zero := by
      unfold zero
      split <;> rfl
    rw [exponentText, String.toList_append, String.toList_append, hsign, hzero, Nat.toString_eq_ofList_toDigits,
      String.toList_ofList]
    rfl
  · intro c hc
    rcases List.mem_cons.mp hc with rfl | hc
    · split_ifs <;> simp
    · left
      rcases List.mem_append.mp hc with hc | hc
      · simp only [zero] at hc
        split_ifs at hc <;> simp_all
      · exact Nat.isDigit_of_mem_toDigits (by decide) le_rfl hc

theorem exists_written_eq_text_of_exponent (hd : 0 < d.coefficient)
    (hplaces : ¬ (-4 ≤ d.leadingExponent ∧ d.leadingExponent ≤ 5)) :
    ∃ (first : Char) (more tail : List Char),
      (d.text roundedStyle).toList = written false [first] more ++ 'e' :: tail ∧
        (∀ c ∈ first :: more, c.isDigit = true) ∧ ∀ c ∈ tail, c.isDigit = true ∨ c = '+' ∨ c = '-' := by
  obtain ⟨tail, hexponent, htail⟩ := exists_toList_exponentText d.leadingExponent
  obtain ⟨first, more, hdigits⟩ := List.exists_cons_of_ne_nil (significantDigits_ne_nil hd)
  have hall : ∀ c ∈ first :: more, c.isDigit = true := fun c hc =>
    isDigit_of_mem_significantDigits (hdigits ▸ hc)
  refine ⟨first, more, tail, ?_, hall, htail⟩
  have hplaces : ¬ (-4 ≤ d.leadingExponent ∧ d.leadingExponent ≤ roundedStyle.highest) := hplaces
  rw [text, if_neg hplaces, String.toList_append, hexponent, hdigits]
  cases more with
  | nil => simp [written]
  | cons second more => simp [written]

theorem places_iff (hd : 0 < d.coefficient) :
    (-4 ≤ d.leadingExponent ∧ d.leadingExponent ≤ 5) ↔ 10 ^ (-4 : ℤ) ≤ d.size ∧ d.size < 10 ^ (6 : ℤ) := by
  have hsize : 0 < d.size := mul_pos (by exact_mod_cast hd) (zpow_pos (by norm_num) _)
  have hlow := Int.zpow_le_iff_le_log (b := 10) (x := -4) (by decide) hsize
  have hhigh := Int.lt_zpow_iff_log_lt (b := 10) (x := 6) (by decide) hsize
  rw [Nat.cast_ofNat] at hlow hhigh
  rw [leadingExponent_eq_log hd, hlow, hhigh]
  exact and_congr_right fun _ => Int.lt_add_one_iff.symm

end Decimal

theorem toList_signed (negative : Bool) {s : String} {whole fraction rest : List Char}
    (hs : s.toList = written false whole fraction ++ rest) :
    (signed negative s).toList = written negative whole fraction ++ rest := by
  cases negative
  · exact hs
  · rw [signed, if_pos rfl, String.toList_append, hs]
    rfl

/-- The double that the rounded text of a double reads as, if that text is a numeral. -/
def readBack? (x : Float) : Option Float :=
  match Binary64.ofFloat x with
  | .finite negative 0 _ => some (Binary64.nearest negative 0 1)
  | .finite negative mantissa exponent =>
    let (num, den) := quotientOf mantissa exponent
    let d := Decimal.rounded 6 num den
    if -4 ≤ d.leadingExponent ∧ d.leadingExponent ≤ 5
    then some (Numeral.toFloat ⟨negative, d.coefficient, d.exponent⟩) else none
  | _ => none

section

variable {x : Float} {negative : Bool} {mantissa : ℕ} {exponent : ℤ}

theorem quotientOf_pos (exponent : ℤ) (hmantissa : 0 < mantissa) :
    0 < (quotientOf mantissa exponent).1 ∧ 0 < (quotientOf mantissa exponent).2 := by
  rw [quotientOf, Nat.shiftLeft_eq, Nat.shiftLeft_eq]
  exact ⟨by positivity, by positivity⟩

theorem quotientOf_eq (mantissa : ℕ) (exponent : ℤ) :
    ((quotientOf mantissa exponent).1 / (quotientOf mantissa exponent).2 : ℚ) = mantissa * 2 ^ exponent := by
  rw [quotientOf, ← pow_toNat_div_pow_toNat, Nat.shiftLeft_eq, Nat.shiftLeft_eq]
  push_cast
  ring

theorem readBack?_of_finite (hx : Binary64.ofFloat x = .finite negative mantissa exponent) (hmantissa : 0 < mantissa) :
    readBack? x =
      let d := Decimal.rounded 6 (quotientOf mantissa exponent).1 (quotientOf mantissa exponent).2
      if -4 ≤ d.leadingExponent ∧ d.leadingExponent ≤ 5
      then some (Numeral.toFloat ⟨negative, d.coefficient, d.exponent⟩) else none := by
  obtain ⟨k, rfl⟩ := Nat.exists_eq_add_of_lt hmantissa
  simp only [readBack?, hx]

/-- The doubles nearest to a number that six digits write by places alone; zero has both signs. -/
inductive IsShort : Float → Prop
  | zero (negative : Bool) : IsShort (Binary64.nearest negative 0 1)
  | decimal {n : Numeral} (hdigits : n.coefficient < 10 ^ 6)
      (hplaces : 10 ^ (-4 : ℤ) ≤ n.size ∧ n.size < 10 ^ (6 : ℤ)) : IsShort n.toFloat

/-- A number of six digits is that of a numeral: rounded up to the next power of ten, it has a single digit. -/
theorem Decimal.exists_numeral {d : Decimal} (negative : Bool) (hd : d.coefficient ≤ 10 ^ 6) :
    ∃ n : Numeral, n.negative = negative ∧ n.coefficient < 10 ^ 6 ∧ n.size = d.size := by
  rcases hd.lt_or_eq with hdigits | hcarried
  · exact ⟨⟨negative, d.coefficient, d.exponent⟩, rfl, hdigits, rfl⟩
  · refine ⟨⟨negative, 10 ^ 5, d.exponent + 1⟩, rfl, Nat.pow_lt_pow_right (by decide) (by decide), ?_⟩
    simp only [Numeral.size, Decimal.size, hcarried]
    rw [zpow_add_one₀ (by norm_num)]
    push_cast
    ring

theorem isShort_of_readBack?_eq (hx : readBack? x = some x) : IsShort x := by
  cases hfloat : Binary64.ofFloat x with
  | nan => simp [readBack?, hfloat] at hx
  | infinite negative => simp [readBack?, hfloat] at hx
  | finite negative mantissa exponent =>
    rcases Nat.eq_zero_or_pos mantissa with rfl | hmantissa
    · simp only [readBack?, hfloat, Option.some.injEq] at hx
      exact hx ▸ .zero negative
    · obtain ⟨hnum, hden⟩ := quotientOf_pos exponent hmantissa
      have hbounds := Decimal.coefficient_rounded_bounds 5 hnum hden
      rw [readBack?_of_finite hfloat hmantissa] at hx
      generalize Decimal.rounded 6 _ _ = d at *
      simp only at hx
      split_ifs at hx with hplaces
      rw [Option.some.injEq] at hx
      have hd : 0 < d.coefficient := (Nat.pow_pos (by decide)).trans_le hbounds.1
      rw [Decimal.places_iff hd] at hplaces
      obtain ⟨n, rfl, hdigits, hsize⟩ := Decimal.exists_numeral negative hbounds.2
      have hfloat : n.toFloat = x := by
        rw [← hx]
        exact Numeral.toFloat_congr rfl hsize
      exact hfloat ▸ .decimal hdigits (hsize ▸ hplaces)

private theorem ten_zpow_lt_limit : (10 ^ (6 : ℤ) : ℚ) < 2 ^ 1024 - 2 ^ 970 := by
  have hpow : (10 ^ 6 + 2 ^ 970 : ℚ) < 2 ^ 1024 := by
    exact_mod_cast (by decide +kernel : 10 ^ 6 + 2 ^ 970 < 2 ^ 1024)
  rw [zpow_ofNat]
  exact lt_sub_iff_add_lt.mpr hpow

/-- A number with six digits at most is what the double nearest to it is rounded to. -/
theorem exists_rounded_toFloat {n : Numeral} (hdigits : n.coefficient < 10 ^ 6)
    (hplaces : 10 ^ (-4 : ℤ) ≤ n.size ∧ n.size < 10 ^ (6 : ℤ)) :
    ∃ mantissa exponent, Binary64.ofFloat n.toFloat = .finite n.negative mantissa exponent ∧ 0 < mantissa ∧
      (Decimal.rounded 6 (quotientOf mantissa exponent).1 (quotientOf mantissa exponent).2).size = n.size := by
  obtain ⟨num, den, hden, hsize⟩ := n.exists_quotient
  have hden' : (0 : ℚ) < den := by exact_mod_cast hden
  have hpos : 0 < n.size := (zpow_pos (by norm_num) _).trans_le hplaces.1
  have hnum : 0 < num := by
    rw [hsize, div_pos_iff_of_pos_right hden'] at hpos
    exact_mod_cast hpos
  have hnormal : -1074 < Binary64.lastBitOf n.size := by
    have hlog := (Int.zpow_le_iff_le_log (b := 2) (x := -14) one_lt_two hpos).mp
      (le_trans (by norm_num) hplaces.1)
    unfold Binary64.lastBitOf
    omega
  rw [hsize] at hnormal
  have hsmall : (num / den : ℚ) < 2 ^ 1024 - 2 ^ 970 := hsize ▸ hplaces.2.trans ten_zpow_lt_limit
  obtain ⟨mantissa, exponent, hfloat, hmantissa, hnear⟩ :=
    Binary64.exists_ofFloat_nearest_near n.negative hnum hden hnormal hsmall
  rw [← Numeral.toFloat_eq_nearest hden hsize] at hfloat
  rw [← hsize, ← quotientOf_eq] at hnear
  obtain ⟨hnum', hden'⟩ := quotientOf_pos exponent hmantissa
  exact ⟨mantissa, exponent, hfloat, hmantissa, Decimal.size_rounded_of_near hnum' hden' hdigits hnear⟩

theorem readBack?_eq_of_isShort (hx : IsShort x) : readBack? x = some x := by
  cases hx with
  | zero negative => simp only [readBack?, Binary64.ofFloat_nearest_zero]
  | decimal hdigits hplaces =>
    obtain ⟨mantissa, exponent, hfloat, hmantissa, hrounded⟩ := exists_rounded_toFloat hdigits hplaces
    obtain ⟨hnum, hden⟩ := quotientOf_pos exponent hmantissa
    have hbounds := Decimal.coefficient_rounded_bounds 5 hnum hden
    rw [readBack?_of_finite hfloat hmantissa]
    generalize Decimal.rounded 6 _ _ = d at *
    have hd : 0 < d.coefficient := (Nat.pow_pos (by decide)).trans_le hbounds.1
    rw [← hrounded, ← Decimal.places_iff hd] at hplaces
    simp only [if_pos hplaces, Option.some.injEq]
    exact Numeral.toFloat_congr rfl hrounded

end

end RegionGrid
