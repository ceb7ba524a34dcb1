import RegionGrid.Proofs.Number.Exact
import RegionGrid.Proofs.Number.Numeral

/-!
# The double closest to a number

What a numeral is read as, told without the way in which it is found: a double to which no other is closer, of
two equally close ones the one with an even mantissa. There is exactly one. The doubles that are not on the grid
of the last bit around a number lie below it and below a point of the grid, so that only the grid matters, and
on the grid the closest double is a number rounded to a whole one.
-/

namespace RegionGrid

namespace IsNearest

variable {u : ℚ} {q : ℕ} {k : ℤ}

private theorem one_le_abs_sub_add (hk : k ≠ q) : 1 ≤ |k - u| + |q - u| := by
  have hone : (1 : ℚ) ≤ |(k : ℚ) - q| := by exact_mod_cast Int.one_le_abs (sub_ne_zero.mpr hk)
  calc
    (1 : ℚ) ≤ |(k : ℚ) - q| := hone
    _ ≤ |k - u| + |u - q| := abs_sub_le _ _ _
    _ = |k - u| + |q - u| := by rw [abs_sub_comm u]

theorem abs_sub_le_of_int (hq : IsNearest u q) (k : ℤ) : |q - u| ≤ |k - u| := by
  have hhalf := hq.1
  rw [abs_sub_comm] at hhalf
  by_cases hk : k = q
  · rw [hk, Int.cast_natCast]
  · have hone := one_le_abs_sub_add (u := u) hk
    linarith

theorem even_of_tie (hq : IsNearest u q) (hk : k ≠ q) (htie : |k - u| = |q - u|) : Even q := by
  apply hq.2
  have hhalf := hq.1
  have hone := one_le_abs_sub_add (u := u) hk
  rw [abs_sub_comm] at hhalf ⊢
  linarith

theorem eq_of_even_of_tie (hq : IsNearest u q) {n : ℕ} (hn : Even n) (htie : |n - u| = |q - u|) : n = q := by
  have hhalf := hq.1
  rw [abs_sub_comm, ← htie, abs_sub_comm] at hhalf
  exact IsNearest.unique ⟨hhalf, fun _ => hn⟩ hq

end IsNearest

namespace Binary64

variable {x y : Float} {negative : Bool} {num den m n : ℕ} {e f : ℤ} {p r : ℚ}

theorem eq_of_ofFloat_eq (hnumber : ofFloat x ≠ nan) (hparts : ofFloat x = ofFloat y) : x = y := by
  suffices hbits : x.toBits.toNat = y.toBits.toNat by
    obtain ⟨⟨_, _⟩⟩ := x
    obtain ⟨⟨_, _⟩⟩ := y
    cases UInt64.toNat_inj.mp hbits
    rfl
  have hx := x.toBits.toNat_lt
  have hy := y.toBits.toNat_lt
  unfold ofFloat at hnumber hparts
  generalize x.toBits.toNat = a at *
  generalize y.toBits.toNat = b at *
  simp only [Nat.shiftRight_eq_div_pow, Nat.shiftLeft_eq, one_mul] at hnumber hparts
  have hsign (h : (a / 2 ^ 63 == 1) = (b / 2 ^ 63 == 1)) : a / 2 ^ 63 = b / 2 ^ 63 := by
    have h := Bool.eq_iff_iff.mp h
    rw [beq_iff_eq, beq_iff_eq] at h
    omega
  split_ifs at hnumber hparts <;>
    simp only [finite.injEq, infinite.injEq, reduceCtorEq, ne_eq, not_true] at hnumber hparts <;> grind

/--
The double closest to a number that is given by its sign and its size. From the middle between the largest
double and the next power of two on it is infinite.
-/
inductive IsClosest (negative : Bool) (r : ℚ) (x : Float) : Prop
  | finite {m : ℕ} {e : ℤ} (hsmall : r < 2 ^ 1024 - 2 ^ 970) (hparts : ofFloat x = finite negative m e)
      (hclosest : ∀ y p, StandsFor y p → |m * 2 ^ e - r| ≤ |p - r|)
      (htie : ∀ y p, StandsFor y p → p ≠ m * 2 ^ e → |p - r| = |m * 2 ^ e - r| → Even m)
  | infinite (hlarge : 2 ^ 1024 - 2 ^ 970 ≤ r) (hparts : ofFloat x = infinite negative)

theorem bounds_of_ofFloat (hx : ofFloat x = finite negative m e) :
    m < 2 ^ 53 ∧ -1074 ≤ e ∧ (m = 0 → e = -1074) := by
  rcases Nat.eq_zero_or_pos m with rfl | hm
  · have hleast : e = -1074 := by
      unfold ofFloat at hx
      simp only [Nat.shiftLeft_eq] at hx
      split_ifs at hx <;> simp only [finite.injEq] at hx <;> omega
    exact ⟨by decide, hleast.ge, fun _ => hleast⟩
  · have hcanonical := canonical_of_ofFloat hx hm
    exact ⟨hcanonical.lt, hcanonical.least, fun hzero => absurd hzero hm.ne'⟩

theorem parts_eq_of_size_eq {negative' : Bool} (hx : ofFloat x = finite negative m e)
    (hy : ofFloat y = finite negative' n f) (hsize : (m * 2 ^ e : ℚ) = n * 2 ^ f) : m = n ∧ e = f := by
  have hzero {k : ℕ} {g : ℤ} : (k * 2 ^ g : ℚ) = 0 ↔ k = 0 := by
    rw [mul_eq_zero, or_iff_left (zpow_ne_zero g two_ne_zero), Nat.cast_eq_zero]
  rcases Nat.eq_zero_or_pos m with rfl | hm
  · obtain rfl : n = 0 := hzero.mp (by rw [← hsize, Nat.cast_zero, zero_mul])
    exact ⟨rfl, ((bounds_of_ofFloat hx).2.2 rfl).trans ((bounds_of_ofFloat hy).2.2 rfl).symm⟩
  · have hn : 0 < n := Nat.pos_of_ne_zero fun hn => hm.ne' (hzero.mp (hsize.trans (hzero.mpr hn)))
    have hcanonical := canonical_of_ofFloat hx hm
    have hcanonical' := canonical_of_ofFloat hy hn
    have hle : ¬ (e < f ∨ e = f ∧ m < n) := fun hlex => (hcanonical.lt_of_lex hcanonical' hlex).ne hsize
    have hge : ¬ (f < e ∨ f = e ∧ n < m) := fun hlex => (hcanonical'.lt_of_lex hcanonical hlex).ne hsize.symm
    omega

/-! ### The grid of the last bit -/

/-- A finite double is on the grid of the last bit around a number, or below it and a point of the grid. -/
theorem on_grid_or_below (hx : ofFloat x = finite negative m e) (hr : 0 < r) :
    (∃ k : ℕ, (m * 2 ^ e : ℚ) = k * 2 ^ lastBitOf r ∧ (Even m → Even k)) ∨
      (m * 2 ^ e : ℚ) < 2 ^ 52 * 2 ^ lastBitOf r ∧ 2 ^ 52 * 2 ^ lastBitOf r ≤ r := by
  obtain ⟨hm, hleast, -⟩ := bounds_of_ofFloat hx
  have hunits := (units_between hr).2
  generalize lastBitOf r = w at *
  have hunit : (0 : ℚ) < 2 ^ w := zpow_pos two_pos _
  by_cases hw : w ≤ e
  · obtain ⟨k, hk⟩ := Int.eq_ofNat_of_zero_le (sub_nonneg.mpr hw)
    obtain rfl : e = k + w := by omega
    refine .inl ⟨m * 2 ^ k, ?_, fun heven => heven.mul_right _⟩
    rw [zpow_add₀ two_ne_zero, zpow_natCast, ← mul_assoc]
    push_cast
    rfl
  · refine .inr ⟨?_, (le_div_iff₀ hunit).mp (hunits (by omega))⟩
    calc
      (m * 2 ^ e : ℚ) < 2 ^ 53 * 2 ^ e := by
        gcongr
        exact_mod_cast hm
      _ = 2 ^ 52 * 2 ^ (e + 1) := by
        rw [zpow_add_one₀ two_ne_zero]
        ring
      _ ≤ 2 ^ 52 * 2 ^ w := by
        gcongr
        · exact one_le_two
        · omega

theorem StandsFor.exists_parts (hy : StandsFor y p) :
    ∃ negative m e, ofFloat y = finite negative m e ∧ p = if negative then -(m * 2 ^ e : ℚ) else m * 2 ^ e := by
  unfold StandsFor at hy
  cases hparts : ofFloat y with
  | finite negative m e =>
    rw [hparts, value?, Option.some_inj] at hy
    exact ⟨negative, m, e, rfl, hy.symm⟩
  | _ =>
    rw [hparts] at hy
    cases hy

theorem StandsFor.exists_abs_eq (hy : StandsFor y p) :
    ∃ negative m e, ofFloat y = finite negative m e ∧ |p| = m * 2 ^ e := by
  obtain ⟨negative, m, e, hparts, hp⟩ := hy.exists_parts
  have hsize : (0 : ℚ) ≤ m * 2 ^ e := by positivity
  refine ⟨negative, m, e, hparts, ?_⟩
  cases negative with
  | false => exact hp ▸ abs_of_nonneg hsize
  | true => exact hp ▸ (abs_neg _).trans (abs_of_nonneg hsize)

section

variable {q : ℕ}

private theorem abs_mul_sub_eq (a r : ℚ) (w : ℤ) : |a * 2 ^ w - r| = |a - r / 2 ^ w| * 2 ^ w := by
  have hunit : (0 : ℚ) < 2 ^ w := zpow_pos two_pos _
  rw [← abs_of_pos hunit, ← abs_mul, abs_of_pos hunit, sub_mul, div_mul_cancel₀ _ hunit.ne']

theorem abs_sub_le_of_grid {w : ℤ} (hq : IsNearest (r / 2 ^ w) q) (k : ℤ) :
    |q * 2 ^ w - r| ≤ |k * 2 ^ w - r| := by
  rw [abs_mul_sub_eq, abs_mul_sub_eq]
  exact mul_le_mul_of_nonneg_right (hq.abs_sub_le_of_int k) (zpow_pos two_pos w).le

theorem units_tie {w k : ℤ} (htie : |k * 2 ^ w - r| = |q * 2 ^ w - r|) : |k - r / 2 ^ w| = |q - r / 2 ^ w| := by
  rw [abs_mul_sub_eq, abs_mul_sub_eq] at htie
  exact mul_right_cancel₀ (zpow_pos two_pos w).ne' htie

/-- What is below a point of the grid that is not above the number is farther away than the nearest point. -/
theorem abs_sub_lt_of_below {w : ℤ} (hq : IsNearest (r / 2 ^ w) q) (hbelow : p < 2 ^ 52 * 2 ^ w)
    (hle : 2 ^ 52 * 2 ^ w ≤ r) : |q * 2 ^ w - r| < |p - r| := by
  have hpoint := abs_sub_le_of_grid hq (2 ^ 52)
  rw [Int.cast_pow, Int.cast_ofNat, abs_of_nonpos (sub_nonpos.mpr hle)] at hpoint
  rw [abs_of_nonpos (by linarith : p - r ≤ 0)]
  linarith

/-- A double is as far away as the nearest point of the grid at least, and if not farther, on the grid. -/
theorem StandsFor.abs_sub_le (hy : StandsFor y p) (hr : 0 < r) (hq : IsNearest (r / 2 ^ lastBitOf r) q) :
    |q * 2 ^ lastBitOf r - r| ≤ |p - r| ∧
      (|p - r| = |q * 2 ^ lastBitOf r - r| → ∃ k : ℤ, p = k * 2 ^ lastBitOf r) := by
  obtain ⟨negative, m, e, hparts, hp⟩ := hy.exists_parts
  rcases on_grid_or_below hparts hr with ⟨k, hk, -⟩ | ⟨hbelow, hle⟩
  · have hgrid : ∃ k : ℤ, p = k * 2 ^ lastBitOf r := by
      rw [hp, hk]
      cases negative with
      | false => exact ⟨k, by simp⟩
      | true => exact ⟨-k, by simp⟩
    obtain ⟨j, rfl⟩ := hgrid
    exact ⟨abs_sub_le_of_grid hq j, fun _ => ⟨j, rfl⟩⟩
  · have hp : p < 2 ^ 52 * 2 ^ lastBitOf r := by
      have hsize : (0 : ℚ) ≤ m * 2 ^ e := by positivity
      split_ifs at hp <;> linarith
    have hlt := abs_sub_lt_of_below hq hp hle
    exact ⟨hlt.le, fun htie => absurd htie hlt.ne'⟩

theorem isClosest_of_grid (hr : 0 < r) (hsmall : r < 2 ^ 1024 - 2 ^ 970) (hq : IsNearest (r / 2 ^ lastBitOf r) q)
    (hparts : ofFloat x = finite negative m e) (hsize : (m * 2 ^ e : ℚ) = q * 2 ^ lastBitOf r)
    (heven : Even q → Even m) : IsClosest negative r x := by
  refine .finite hsmall hparts (fun y p hy => ?_) (fun y p hy hne htie => ?_)
  · rw [hsize]
    exact (hy.abs_sub_le hr hq).1
  · rw [hsize] at hne htie
    obtain ⟨k, rfl⟩ := (hy.abs_sub_le hr hq).2 htie
    have hk : k ≠ q := by
      rintro rfl
      exact hne (by rw [Int.cast_natCast])
    exact heven (hq.even_of_tie hk (units_tie htie))

end

/-- The nearest double is the nearest point of the grid, with either sign. -/
theorem exists_grid_point (hnum : 0 < num) (hden : 0 < den) (hsmall : (num / den : ℚ) < 2 ^ 1024 - 2 ^ 970) :
    ∃ q m : ℕ, ∃ e : ℤ, IsNearest (num / den / 2 ^ lastBitOf (num / den)) q ∧
      (∀ negative, ofFloat (nearest negative num den) = finite negative m e) ∧
      (m * 2 ^ e : ℚ) = q * 2 ^ lastBitOf (num / den) ∧ (Even q → Even m) := by
  have hden' : (0 : ℚ) < den := by exact_mod_cast hden
  have hq := isNearest_scaledQuotient num (lastBitOf (num / den)) hden
  have hparts (negative : Bool) : ofFloat (nearest negative num den) = _ :=
    ofFloat_nearest_of_lt hnum hden hsmall hq
  have hbound := (units_bounds (by positivity) hq).1
  generalize scaledQuotient num den _ = q at *
  by_cases hunits : q < 2 ^ 53
  · simp only [if_pos hunits] at hparts
    exact ⟨q, q, _, hq, hparts, rfl, id⟩
  · simp only [if_neg hunits] at hparts
    refine ⟨q, 2 ^ 52, _, hq, hparts, ?_, fun _ => by decide⟩
    rw [le_antisymm hbound (not_lt.mp hunits), zpow_add_one₀ two_ne_zero]
    push_cast
    ring

private theorem zero_lt_limit : (0 : ℚ) < 2 ^ 1024 - 2 ^ 970 :=
  sub_pos.mpr (pow_lt_pow_right₀ one_lt_two (by decide))

theorem isClosest_nearest (negative : Bool) (num : ℕ) (hden : 0 < den) :
    IsClosest negative (num / den) (nearest negative num den) := by
  have hden' : (0 : ℚ) < den := by exact_mod_cast hden
  rcases Nat.eq_zero_or_pos num with rfl | hnum
  · rw [Nat.cast_zero, zero_div]
    have hzero : ((0 : ℕ) * 2 ^ (-1074 : ℤ) : ℚ) = 0 := by rw [Nat.cast_zero, zero_mul]
    refine .finite zero_lt_limit (ofFloat_nearest_zero den) (fun y p _ => ?_) fun y p _ hne htie => ?_
    · rw [hzero, sub_zero, abs_zero]
      exact abs_nonneg _
    · rw [hzero] at hne htie
      rw [sub_zero, sub_zero, abs_zero, abs_eq_zero] at htie
      exact absurd htie hne
  · rcases le_or_gt (2 ^ 1024 - 2 ^ 970 : ℚ) (num / den) with hlarge | hsmall
    · exact .infinite hlarge (ofFloat_nearest_of_ge hnum hden hlarge)
    · obtain ⟨q, m, e, hq, hparts, hsize, heven⟩ := exists_grid_point hnum hden hsmall
      exact isClosest_of_grid (by positivity) hsmall hq (hparts negative) hsize heven

theorem ofFloat_nearest_of_closest (hnum : 0 < num) (hden : 0 < den) (hsmall : (num / den : ℚ) < 2 ^ 1024 - 2 ^ 970)
    (hparts : ofFloat x = finite negative m e)
    (hclosest : ∀ y p, StandsFor y p → |(m * 2 ^ e : ℚ) - num / den| ≤ |p - num / den|)
    (htie : ∀ y p, StandsFor y p → p ≠ m * 2 ^ e → |p - num / den| = |(m * 2 ^ e : ℚ) - num / den| → Even m) :
    ofFloat (nearest negative num den) = finite negative m e := by
  have hden' : (0 : ℚ) < den := by exact_mod_cast hden
  have hpos : (0 : ℚ) < num / den := by positivity
  obtain ⟨q, m', e', hq, hnearest, hsize, -⟩ := exists_grid_point hnum hden hsmall
  have hstands : StandsFor (nearest false num den) (q * 2 ^ lastBitOf (num / den)) := by
    rw [StandsFor, hnearest, value?, ← hsize]
    rfl
  have hle := hclosest _ _ hstands
  suffices hsame : (m * 2 ^ e : ℚ) = q * 2 ^ lastBitOf (num / den) by
    obtain ⟨rfl, rfl⟩ := parts_eq_of_size_eq hparts (hnearest negative) (hsame.trans hsize.symm)
    exact hnearest negative
  rcases on_grid_or_below hparts hpos with ⟨k, hk, heven⟩ | ⟨hbelow, hpoint⟩
  · by_contra hne
    have hdistance : |(m * 2 ^ e : ℚ) - num / den| = |(q * 2 ^ lastBitOf (num / den) : ℚ) - num / den| := by
      refine le_antisymm hle ?_
      rw [hk]
      exact abs_sub_le_of_grid hq k
    have hm := htie _ _ hstands (Ne.symm hne) hdistance.symm
    rw [hk] at hdistance hne
    exact hne (by rw [hq.eq_of_even_of_tie (heven hm) (units_tie hdistance)])
  · exact absurd hle (abs_sub_lt_of_below hq hbelow hpoint).not_ge

theorem isClosest_iff (hden : 0 < den) : IsClosest negative (num / den) x ↔ x = nearest negative num den := by
  refine ⟨fun hx => ?_, fun hx => hx ▸ isClosest_nearest negative num hden⟩
  suffices hparts : ofFloat x = ofFloat (nearest negative num den) by
    refine eq_of_ofFloat_eq ?_ hparts
    cases hx with
    | finite _ hparts => simp [hparts]
    | infinite _ hparts => simp [hparts]
  rcases Nat.eq_zero_or_pos num with rfl | hnum
  · rw [Nat.cast_zero, zero_div] at hx
    cases hx with
    | infinite hlarge => exact absurd zero_lt_limit hlarge.not_gt
    | @finite m e _ hparts hclosest =>
      have hzero : (m * 2 ^ e : ℚ) ≤ 0 := by simpa using hclosest 0 0 standsFor_zero
      have hm : m = 0 := Nat.eq_zero_of_not_pos fun hm => hzero.not_gt (by positivity)
      rw [ofFloat_nearest_zero, hparts, hm, (bounds_of_ofFloat hparts).2.2 hm]
  · cases hx with
    | infinite hlarge hparts => rw [hparts, ofFloat_nearest_of_ge hnum hden hlarge]
    | finite hsmall hparts hclosest htie =>
      rw [hparts, ofFloat_nearest_of_closest hnum hden hsmall hparts hclosest htie]

end Binary64

theorem Numeral.isClosest_iff {n : Numeral} {x : Float} :
    Binary64.IsClosest n.negative n.size x ↔ x = n.toFloat := by
  obtain ⟨num, den, hden, hsize⟩ := n.exists_quotient
  rw [hsize, Binary64.isClosest_iff hden, toFloat_eq_nearest hden hsize]

end RegionGrid
