import RegionGrid.Proofs.Number.Exact

/-!
# Sums of doubles that are exact

Adding and subtracting doubles rounds the exact result to the nearest double. Where the exact result is the
number of a double, there is nothing to round: aligning the terms, adding their mantissas, making the mantissa
as long as it can be and packing it keep the number. This holds of whole numbers below `2 ^ 53`, and of what
is left of a double when a whole number is taken away.
-/

namespace RegionGrid.Binary64

open Float.Model (UnpackedFloat Format)
open Float.Model.UnpackedFloat

/-! ### Rounding what needs no rounding -/

theorem shiftRight_mul_two_pow (m k : ℕ) :
    (⟨m * 2 ^ k, false, false⟩ : ExtendedMantissa) >>> k = ⟨m, false, false⟩ := by
  change k.repeat ExtendedMantissa.shiftRightOne _ = _
  induction k generalizing m with
  | zero => rw [pow_zero, mul_one]; rfl
  | succ k ih =>
    rw [pow_succ', ← mul_assoc, Nat.repeat, ih, ExtendedMantissa.shiftRightOne]
    simp

theorem log2_mul_two_pow {m : ℕ} (hm : 0 < m) (k : ℕ) : (m * 2 ^ k).log2 = m.log2 + k := by
  have hlow : 2 ^ m.log2 ≤ m := Nat.log2_self_le hm.ne'
  have hhigh : m < 2 ^ (m.log2 + 1) := Nat.lt_log2_self
  apply (Nat.log2_eq_iff (Nat.mul_pos hm (Nat.two_pow_pos k)).ne').mpr
  constructor
  · rw [pow_add]
    exact Nat.mul_le_mul_right _ hlow
  · rw [add_right_comm, pow_add]
    exact Nat.mul_lt_mul_of_pos_right hhigh (Nat.two_pow_pos k)

theorem Canonical.targetExponent_eq {m : ℕ} {e : ℤ} (h : Canonical m e) (k : ℕ) :
    Format.binary64.targetExponent (Float.Model.totalExponent (m * 2 ^ k) (e - k)) = e := by
  have hlt : m.log2 < 53 := (Nat.log2_lt h.pos.ne').mpr h.lt
  have hlong : 52 ≤ m.log2 ∨ e = -1074 := h.long.imp_left (Nat.le_log2 h.pos.ne').mpr
  have hleast := h.least
  rw [Float.Model.totalExponent, log2_mul_two_pow h.pos, Format.targetExponent]
  change max (((m.log2 + k : ℕ) : ℤ) + 1 + (e - k) - 53) (-1074) = e
  omega

theorem Canonical.shiftToTargetExponent_eq {m : ℕ} {e : ℤ} (h : Canonical m e) (k : ℕ) :
    shiftToTargetExponent Format.binary64 (m * 2 ^ k) (e - k) .exact = (⟨m, false, false⟩, e) := by
  have hshift : (e - (e - k)).toNat = k := by omega
  simp only [shiftToTargetExponent, h.targetExponent_eq, shiftToExponent, hshift,
    ExtendedMantissa.ofMantissaAndAccuracy, shiftRight_mul_two_pow, sub_add_cancel]

theorem Canonical.roundWithAccuracy_eq {m : ℕ} {e : ℤ} (h : Canonical m e) (s : Sign) (k : ℕ) :
    roundWithAccuracy Format.binary64 s (m * 2 ^ k) (e - k) .exact = .finite s m e h.pos := by
  have hagain := h.shiftToTargetExponent_eq 0
  rw [pow_zero, mul_one, Nat.cast_zero, sub_zero] at hagain
  have hrounded : (⟨m, false, false⟩ : ExtendedMantissa).roundedMantissa = m := rfl
  simp only [roundWithAccuracy, h.shiftToTargetExponent_eq, hrounded, hagain, dif_neg h.pos.ne']

theorem Canonical.round_eq {m n : ℕ} {e f : ℤ} (h : Canonical m e) (s : Sign)
    (heq : (n * 2 ^ f : ℚ) = m * 2 ^ e) : UnpackedFloat.round Format.binary64 s n f = .finite s m e h.pos := by
  have htwo : (2 : ℚ) ≠ 0 := two_ne_zero
  rcases le_total f e with hf | hf
  · obtain ⟨k, hk⟩ := Int.eq_ofNat_of_zero_le (sub_nonneg.mpr hf)
    obtain rfl : f = e - k := by omega
    have hn : n = m * 2 ^ k := by
      rw [zpow_sub₀ htwo, mul_div_assoc', div_eq_iff (zpow_pos two_pos _).ne', mul_right_comm,
        mul_left_inj' (zpow_pos two_pos _).ne'] at heq
      exact_mod_cast heq
    have hshift : (e - k - e).toNat = 0 := by omega
    simp only [UnpackedFloat.round, hn, h.targetExponent_eq, decreaseExponent, hshift, Nat.shiftLeft_zero,
      Nat.cast_zero, sub_zero, h.roundWithAccuracy_eq]
  · obtain ⟨k, hk⟩ := Int.eq_ofNat_of_zero_le (sub_nonneg.mpr hf)
    obtain rfl : f = e + k := by omega
    have hn : n * 2 ^ k = m := by
      rw [zpow_add₀ htwo, mul_comm ((2 : ℚ) ^ e), ← mul_assoc, mul_left_inj' (zpow_pos two_pos _).ne'] at heq
      exact_mod_cast heq
    have hpos : 0 < n := by
      have := h.pos
      grind
    have htarget := h.targetExponent_eq 0
    rw [pow_zero, mul_one, Nat.cast_zero, sub_zero, ← hn] at htarget
    have htotal : Float.Model.totalExponent n (e + k) = Float.Model.totalExponent (n * 2 ^ k) e := by
      rw [Float.Model.totalExponent, Float.Model.totalExponent, log2_mul_two_pow hpos]
      omega
    have hshift : (e + k - e).toNat = k := by omega
    have hround := h.roundWithAccuracy_eq s 0
    rw [pow_zero, mul_one, Nat.cast_zero, sub_zero] at hround
    rw [UnpackedFloat.round, htotal, htarget, decreaseExponent, hshift, Nat.shiftLeft_eq, hn, add_sub_cancel_right]
    exact hround

theorem Denotes.normalize {w : UnpackedFloat} {n f : ℤ} (hw : Denotes w (n * 2 ^ f)) :
    Denotes (UnpackedFloat.normalize Format.binary64 n f .positive) (n * 2 ^ f) := by
  have hunit : (0 : ℚ) < 2 ^ f := zpow_pos two_pos f
  generalize hq : (n * 2 ^ f : ℚ) = q at hw ⊢
  cases hw with
  | zero s =>
    have hn : n = 0 := by
      rcases mul_eq_zero.mp hq with hn | hn
      · exact_mod_cast hn
      · exact absurd hn hunit.ne'
    rw [hn]
    exact .zero .positive
  | @finite s m e hm hcanonical =>
    have hsize : (0 : ℚ) < m * 2 ^ e := by positivity
    rw [apply_mul_eq] at hq
    cases s with
    | negative =>
      change (n * 2 ^ f : ℚ) = -(m * 2 ^ e) at hq
      have hn : n < 0 := by
        rw [← neg_lt_zero, ← hq] at hsize
        exact_mod_cast neg_of_mul_neg_left hsize hunit.le
      have hround : (((-n).toNat : ℕ) * 2 ^ f : ℚ) = m * 2 ^ e := by
        have hcast : (((-n).toNat : ℕ) : ℚ) = -n := by exact_mod_cast Int.toNat_of_nonneg (by omega)
        rw [hcast, neg_mul, hq, neg_neg]
      rw [UnpackedFloat.normalize, compare_lt_iff_lt.mpr hn]
      change Denotes (UnpackedFloat.round _ _ _ _) _
      rw [hcanonical.round_eq _ hround]
      exact .finite .negative hm hcanonical
    | positive =>
      change (n * 2 ^ f : ℚ) = m * 2 ^ e at hq
      have hn : 0 < n := by
        rw [← hq] at hsize
        exact_mod_cast (mul_pos_iff_of_pos_right hunit).mp hsize
      have hround : ((n.toNat : ℕ) * 2 ^ f : ℚ) = m * 2 ^ e := by
        have hcast : ((n.toNat : ℕ) : ℚ) = n := by exact_mod_cast Int.toNat_of_nonneg hn.le
        rw [hcast, hq]
      rw [UnpackedFloat.normalize, compare_gt_iff_gt.mpr hn]
      change Denotes (UnpackedFloat.round _ _ _ _) _
      rw [hcanonical.round_eq _ hround]
      exact .finite .positive hm hcanonical

theorem unpack_pack_finite (s : Sign) {m : ℕ} {e : ℤ} (h : Canonical m e) :
    (Float.Model.pack (.finite s m e h.pos)).unpack = .finite s m e h.pos := by
  obtain ⟨hpos, hlt, hleast, hmost, hlong⟩ := h
  obtain ⟨b, rfl⟩ : ∃ b : ℕ, e = b - 1075 := ⟨(e + 1075).toNat, by omega⟩
  have hbias : ((b : ℤ) - 1075 + ((Format.binary64.exponentBias : ℕ) : ℤ) + (52 : ℕ)).toNat = b := by
    change ((b : ℤ) - 1075 + (1023 : ℕ) + (52 : ℕ)).toNat = b
    omega
  have hfits : ¬ 2 ^ 11 ≤ b + 1 := by omega
  have hlog : m.log2 + 1 = Format.binary64.mantissaBits ↔ 2 ^ 52 ≤ m := by
    have hlt := (Nat.log2_lt hpos.ne').mpr hlt
    have hle : 52 ≤ m.log2 ↔ 2 ^ 52 ≤ m := Nat.le_log2 hpos.ne'
    rw [← hle]
    change m.log2 + 1 = 53 ↔ 52 ≤ m.log2
    omega
  have hexponent : (BitVec.ofNat 11 b).toNat = b := Nat.mod_eq_of_lt (by omega)
  have hmantissa : (BitVec.ofNat 52 m).toNat = m % 2 ^ 52 := BitVec.toNat_ofNat m 52
  change UnpackedFloat.unpack Format.binary64 (UnpackedFloat.pack Format.binary64 _) = _
  simp only [UnpackedFloat.pack, hbias, hlog, if_neg hfits]
  split
  · next hnormal =>
    have hfinite : BitVec.ofNat 11 b ≠ -1#_ := by
      intro h
      rw [h] at hexponent
      change 2047 = b at hexponent
      omega
    have hpositive : BitVec.ofNat 11 b ≠ 0#_ := by
      intro h
      rw [h] at hexponent
      change 0 = b at hexponent
      omega
    simp only [unpack, unpackExponent_packComponents, unpackMantissa_packComponents, unpackSign_packComponents,
      Sign.ofBitVec_toBitVec, if_neg hfinite, if_neg hpositive, toNat_implicit, hexponent, hmantissa,
      UnpackedFloat.finite.injEq, true_and]
    constructor
    · omega
    · rfl
  · next hsubnormal =>
    have hzero : BitVec.ofNat 52 m ≠ 0#_ := by
      intro h
      rw [h] at hmantissa
      change 0 = m % 2 ^ 52 at hmantissa
      omega
    have hfinite : (0#11 : BitVec 11) ≠ -1#_ := by decide
    simp only [unpack, unpackExponent_packComponents, unpackMantissa_packComponents, unpackSign_packComponents,
      Sign.ofBitVec_toBitVec, if_neg hfinite, if_true, dif_neg hzero, hmantissa, UnpackedFloat.finite.injEq, true_and]
    constructor
    · omega
    · change (0 : ℤ) - ((1023 : ℕ) + (52 : ℕ)) + 1 = b - 1075
      omega

theorem Denotes.unpack_pack {u : UnpackedFloat} {q : ℚ} (hu : Denotes u q) :
    Denotes (Float.Model.pack u).unpack q := by
  cases hu with
  | zero s =>
    rw [unpack_pack_zero]
    exact .zero s
  | finite s hm hcanonical =>
    rw [unpack_pack_finite s hcanonical]
    exact .finite s hm hcanonical

/-! ### Sums and differences -/

theorem apply_decreaseExponent (s : Sign) (m : ℕ) {e f : ℤ} (hf : f ≤ e) :
    (s.apply (decreaseExponent m e f).1 * 2 ^ f : ℚ) = s.apply m * 2 ^ e := by
  obtain ⟨k, hk⟩ := Int.eq_ofNat_of_zero_le (sub_nonneg.mpr hf)
  obtain rfl : e = f + k := by omega
  have hshift : (f + k - f).toNat = k := by omega
  rw [decreaseExponent, hshift, Nat.shiftLeft_eq, zpow_add₀ two_ne_zero, zpow_natCast]
  cases s with
  | negative =>
    simp only [Sign.apply]
    push_cast
    ring
  | positive =>
    simp only [Sign.apply]
    push_cast
    ring

theorem Denotes.add {u v w : UnpackedFloat} {p q : ℚ} (hu : Denotes u p) (hv : Denotes v q)
    (hw : Denotes w (p + q)) : Denotes (UnpackedFloat.add Format.binary64 u v) (p + q) := by
  cases hu with
  | zero s =>
    rw [zero_add] at hw ⊢
    cases hv with
    | zero t =>
      rw [UnpackedFloat.add]
      split
      · exact .zero s
      · exact .zero .positive
    | finite t hn hcanonical => exact .finite t hn hcanonical
  | @finite s m e hm hcanonical =>
    cases hv with
    | zero t =>
      rw [add_zero]
      exact .finite s hm hcanonical
    | @finite t n f hn hcanonical' =>
      have hsum : (s.apply m * 2 ^ e + t.apply n * 2 ^ f : ℚ) =
          ((s.apply (decreaseExponent m e (min e f)).1 + t.apply (decreaseExponent n f (min e f)).1 : ℤ) : ℚ) *
            2 ^ min e f := by
        rw [Int.cast_add, add_mul, apply_decreaseExponent s m (min_le_left e f),
          apply_decreaseExponent t n (min_le_right e f)]
      rw [hsum] at hw ⊢
      exact hw.normalize

theorem Denotes.neg {u : UnpackedFloat} {q : ℚ} (hu : Denotes u q) : Denotes u.neg (-q) := by
  cases hu with
  | zero s =>
    rw [neg_zero]
    exact .zero (-s)
  | @finite s m e hm hcanonical =>
    have hneg : (-(s.apply m * 2 ^ e) : ℚ) = (-s).apply m * 2 ^ e := by
      cases s <;> simp [Sign.apply]
    rw [hneg]
    exact .finite (-s) hm hcanonical

theorem apply_neg (s : Sign) (n : ℤ) : (-s).apply n = -s.apply n := by
  cases s with
  | negative => exact (neg_neg n).symm
  | positive => rfl

/-- Subtracting is adding the negative. -/
theorem unpacked_sub_eq (u v : UnpackedFloat) :
    UnpackedFloat.sub Format.binary64 u v = UnpackedFloat.add Format.binary64 u v.neg := by
  cases u with
  | notANumber => rfl
  | infinity s =>
    cases v with
    | infinity t => cases s <;> cases t <;> rfl
    | _ => rfl
  | zero s =>
    cases v with
    | zero t => cases s <;> cases t <;> rfl
    | _ => rfl
  | finite s m e hm =>
    cases v with
    | finite t n f hn => simp only [UnpackedFloat.sub, UnpackedFloat.neg, UnpackedFloat.add, apply_neg, sub_eq_add_neg]
    | _ => rfl

/-- A number that a double can stand for. -/
def Representable (q : ℚ) : Prop := ∃ u, Denotes u q

section

variable {x y : Float} {p q : ℚ}

theorem StandsFor.add (hx : StandsFor x p) (hy : StandsFor y q) (hsum : Representable (p + q)) :
    StandsFor (x + y) (p + q) := by
  obtain ⟨w, hw⟩ := hsum
  exact standsFor_iff_denotes.mpr ((standsFor_iff_denotes.mp hx).add (standsFor_iff_denotes.mp hy) hw).unpack_pack

theorem StandsFor.sub (hx : StandsFor x p) (hy : StandsFor y q) (hdifference : Representable (p - q)) :
    StandsFor (x - y) (p - q) := by
  obtain ⟨w, hw⟩ := hdifference
  rw [sub_eq_add_neg] at hw ⊢
  have hsum := (standsFor_iff_denotes.mp hx).add (standsFor_iff_denotes.mp hy).neg hw
  rw [← unpacked_sub_eq] at hsum
  exact standsFor_iff_denotes.mpr hsum.unpack_pack

theorem canonical_shifted {m : ℕ} {e : ℤ} (hm : 0 < m) (hlt : m < 2 ^ 53) (hleast : -1074 ≤ e) (hmost : e ≤ 971) :
    ∃ k : ℕ, Canonical (m * 2 ^ k) (e - k) := by
  have hlog : m.log2 < 53 := (Nat.log2_lt hm.ne').mpr hlt
  have hpos (k : ℕ) : 0 < m * 2 ^ k := Nat.mul_pos hm (Nat.two_pow_pos k)
  obtain ⟨k, hk⟩ : ∃ k : ℕ, k = min (52 - m.log2) (e + 1074).toNat := ⟨_, rfl⟩
  refine ⟨k, hpos k, ?_, by omega, by omega, ?_⟩
  · apply (Nat.log2_lt (hpos k).ne').mp
    rw [log2_mul_two_pow hm]
    omega
  · rcases Nat.le_total (52 - m.log2) (e + 1074).toNat with hle | hle
    · left
      apply (Nat.le_log2 (hpos k).ne').mp
      rw [log2_mul_two_pow hm]
      omega
    · right
      omega

theorem representable_mul_zpow {n e : ℤ} (hn : n.natAbs < 2 ^ 53) (hleast : -1074 ≤ e) (hmost : e ≤ 971) :
    Representable (n * 2 ^ e) := by
  rcases eq_or_ne n 0 with rfl | hzero
  · rw [Int.cast_zero, zero_mul]
    exact ⟨_, .zero .positive⟩
  · obtain ⟨k, hcanonical⟩ := canonical_shifted (Int.natAbs_pos.mpr hzero) hn hleast hmost
    have hvalue : ((n.natAbs * 2 ^ k : ℕ) * 2 ^ (e - k) : ℚ) = n.natAbs * 2 ^ e := by
      rw [zpow_sub₀ two_ne_zero, zpow_natCast, Nat.cast_mul, Nat.cast_pow, Nat.cast_ofNat]
      field_simp
    rcases Int.natAbs_eq n with habs | habs
    · have hdenotes := Denotes.finite .positive hcanonical.pos hcanonical
      rw [apply_mul_eq, hvalue] at hdenotes
      rw [habs]
      exact ⟨_, hdenotes⟩
    · have hdenotes := Denotes.finite .negative hcanonical.pos hcanonical
      rw [apply_mul_eq, hvalue] at hdenotes
      rw [habs, Int.cast_neg, neg_mul]
      exact ⟨_, hdenotes⟩

theorem representable_intCast {n : ℤ} (hn : n.natAbs < 2 ^ 53) : Representable n := by
  have hwhole := representable_mul_zpow (e := 0) hn (by decide) (by decide)
  rwa [zpow_zero, mul_one] at hwhole

/-- A whole number can be taken away without rounding, as long as there is something left. -/
theorem Representable.sub_natCast (hq : Representable q) (hlt : q < 2 ^ 53) {n : ℕ} (hn : n ≤ q) :
    Representable (q - n) := by
  obtain ⟨u, hu⟩ := hq
  cases hu with
  | zero s =>
    have hzero : n = 0 := Nat.le_zero.mp (by exact_mod_cast hn)
    rw [hzero, Nat.cast_zero, sub_zero]
    exact ⟨_, .zero s⟩
  | @finite s m e hm hcanonical =>
    have hsize : (0 : ℚ) < m * 2 ^ e := by positivity
    obtain ⟨-, hbound, hleast, hmost, -⟩ := hcanonical
    rw [apply_mul_eq] at hn hlt ⊢
    cases s with
    | negative =>
      have hnonneg : (0 : ℚ) ≤ n := Nat.cast_nonneg n
      change (n : ℚ) ≤ -(m * 2 ^ e) at hn
      linarith
    | positive =>
      change (n : ℚ) ≤ m * 2 ^ e at hn
      change (m * 2 ^ e : ℚ) < 2 ^ 53 at hlt
      change Representable (m * 2 ^ e - n)
      rcases le_total 0 e with he | he
      · obtain ⟨k, rfl⟩ := Int.eq_ofNat_of_zero_le he
        rw [zpow_natCast] at *
        have hle : n ≤ m * 2 ^ k := by exact_mod_cast hn
        have hlt : m * 2 ^ k < 2 ^ 53 := by exact_mod_cast hlt
        have hwhole := representable_intCast (n := ((m * 2 ^ k : ℕ) : ℤ) - n) (by omega)
        exact_mod_cast hwhole
      · obtain ⟨k, hk⟩ := Int.eq_ofNat_of_zero_le (neg_nonneg.mpr he)
        obtain rfl : e = -k := by omega
        have hunit : (2 ^ k : ℚ) * 2 ^ (-k : ℤ) = 1 := by
          rw [zpow_neg, zpow_natCast]
          exact mul_inv_cancel₀ (by positivity)
        have hle : n * 2 ^ k ≤ m := by
          have hscaled := mul_le_mul_of_nonneg_right hn (by positivity : (0 : ℚ) ≤ 2 ^ k)
          rw [mul_assoc, mul_comm ((2 : ℚ) ^ (-k : ℤ)), hunit, mul_one] at hscaled
          exact_mod_cast hscaled
        have hpart := representable_mul_zpow (n := (m : ℤ) - (n * 2 ^ k : ℕ)) (by omega) hleast hmost
        have hvalue : (((m : ℤ) - (n * 2 ^ k : ℕ) : ℤ) * 2 ^ (-k : ℤ) : ℚ) = m * 2 ^ (-k : ℤ) - n := by
          push_cast
          rw [sub_mul, mul_assoc (n : ℚ), hunit, mul_one]
        rwa [hvalue] at hpart

end

end RegionGrid.Binary64
