import RegionGrid.Proofs.Number.Special

/-!
# The number that a double stands for

A finite double stands for a rational number. Its mantissa is as long as it can be, so that doubles compare
like the numbers they stand for: first by exponents, then by mantissas. All else that is proved about finite
doubles is read off `Denotes`, which pairs an unpacked double with its number.
-/

namespace RegionGrid.Binary64

open Float.Model (UnpackedFloat Format)
open Float.Model.UnpackedFloat

/-- The number that a finite double stands for. -/
def value? : Binary64 → Option ℚ
  | finite negative mantissa exponent =>
    let size : ℚ := mantissa * 2 ^ exponent
    some (if negative then -size else size)
  | _ => none

/-- The double is finite, and this is its number. -/
def StandsFor (x : Float) (q : ℚ) : Prop := value? (ofFloat x) = some q

/-! ### Unpacked doubles -/

/-- A mantissa and an exponent as a double has them. -/
structure Canonical (m : ℕ) (e : ℤ) : Prop where
  pos : 0 < m
  lt : m < 2 ^ 53
  least : -1074 ≤ e
  most : e ≤ 971
  long : 2 ^ 52 ≤ m ∨ e = -1074

/-- An unpacked double with the number that it stands for. -/
inductive Denotes : UnpackedFloat → ℚ → Prop
  | zero (s : Sign) : Denotes (.zero s) 0
  | finite (s : Sign) {m : ℕ} {e : ℤ} (hm : 0 < m) (hcanonical : Canonical m e) :
    Denotes (.finite s m e hm) (s.apply m * 2 ^ e)

def isNegative : Sign → Bool
  | .negative => true
  | .positive => false

theorem apply_mul_eq (s : Sign) (m : ℕ) (e : ℤ) :
    (s.apply m * 2 ^ e : ℚ) = if isNegative s then -(m * 2 ^ e : ℚ) else m * 2 ^ e := by
  cases s with
  | negative => simp [Sign.apply, isNegative]
  | positive => simp [Sign.apply, isNegative]

theorem toNat_implicit (mantissa : BitVec 52) : (1#1 ++ mantissa).toNat = 1 <<< 52 + mantissa.toNat := by
  rw [BitVec.toNat_append, ← Nat.shiftLeft_add_eq_or_of_lt mantissa.isLt]
  rfl

section Bits

variable (u : UInt64)

theorem toNat_unpackExponent :
    (@unpackExponent Format.binary64 u.toBitVec).toNat = u.toNat >>> 52 % 0x800 := by
  rw [unpackExponent_def]
  simp [Format.binary64]

theorem toNat_unpackMantissa :
    (@unpackMantissa Format.binary64 u.toBitVec).toNat = u.toNat % 1 <<< 52 := by
  rw [unpackMantissa_def]
  simp [Format.binary64]

theorem toNat_unpackSign : (@unpackSign Format.binary64 u.toBitVec).toNat = u.toNat >>> 63 := by
  have hu := u.toNat_lt
  rw [unpackSign_def]
  simp [Format.binary64, Nat.shiftRight_eq_div_pow]
  omega

end Bits

theorem isNegative_ofBitVec (b : BitVec 1) : isNegative (Sign.ofBitVec b) = (b.toNat == 1) := by
  decide +revert

def ofUnpacked : UnpackedFloat → Binary64
  | .finite s m e _ => finite (isNegative s) m e
  | .zero s => finite (isNegative s) 0 (-1074)
  | .infinity s => infinite (isNegative s)
  | .notANumber => nan

theorem ofFloat_eq (x : Float) : ofFloat x = ofUnpacked x.toModel.unpack := by
  have hunpack : x.toModel.unpack = UnpackedFloat.unpack Format.binary64 x.toBits.toBitVec := rfl
  have hinfinite (exponent : BitVec 11) : exponent = -1#_ ↔ exponent.toNat = 0x7ff := BitVec.toNat_inj.symm
  have hsubnormal (exponent : BitVec 11) : exponent = 0#_ ↔ exponent.toNat = 0 := BitVec.toNat_inj.symm
  have hzero (mantissa : BitVec 52) : mantissa = 0#_ ↔ mantissa.toNat = 0 := BitVec.toNat_inj.symm
  rw [hunpack, ofFloat, ← toNat_unpackSign, ← isNegative_ofBitVec, ← toNat_unpackExponent,
    ← toNat_unpackMantissa, unpack]
  simp only [hinfinite, hsubnormal, hzero, toNat_implicit]
  split_ifs with hmost hfraction hleast hfraction
  · rfl
  · rfl
  · rw [hfraction]
    rfl
  · rw [hleast]
    rfl
  · rfl

theorem canonical_of_ofFloat {x : Float} {negative : Bool} {m : ℕ} {e : ℤ}
    (hx : ofFloat x = finite negative m e) (hm : 0 < m) : Canonical m e := by
  have hfraction : x.toBits.toNat % 1 <<< 52 < 2 ^ 52 := Nat.mod_lt _ (by decide)
  have hexponent : x.toBits.toNat >>> 52 % 0x800 < 0x800 := Nat.mod_lt _ (by decide)
  have hone : 1 <<< 52 = 2 ^ 52 := rfl
  rw [ofFloat] at hx
  generalize x.toBits.toNat % 1 <<< 52 = fraction at *
  generalize x.toBits.toNat >>> 52 % 0x800 = exponent at *
  split_ifs at hx with hinfinite hzero hsubnormal
  · cases hx
    exact ⟨hm, by omega, by omega, by omega, .inr rfl⟩
  · cases hx
    exact ⟨hm, by omega, by omega, by omega, .inl (by omega)⟩

theorem standsFor_iff_denotes {x : Float} {q : ℚ} : StandsFor x q ↔ Denotes x.toModel.unpack q := by
  have hparts := ofFloat_eq x
  rw [StandsFor, hparts]
  cases hunpack : x.toModel.unpack with
  | notANumber => exact iff_of_false nofun nofun
  | infinity s => exact iff_of_false nofun nofun
  | zero s =>
    have hvalue : value? (ofUnpacked (.zero s)) = some 0 := by
      cases s <;> simp [ofUnpacked, value?, isNegative]
    rw [hvalue, Option.some_inj]
    exact ⟨fun h => h ▸ .zero s, fun h => by cases h; rfl⟩
  | finite s m e hm =>
    rw [hunpack] at hparts
    rw [ofUnpacked, value?, ← apply_mul_eq, Option.some_inj]
    exact ⟨fun h => h ▸ .finite s hm (canonical_of_ofFloat hparts hm), fun h => by cases h; rfl⟩

theorem standsFor_zero : StandsFor 0 0 := by
  rw [standsFor_iff_denotes, unpack_zero]
  exact .zero .positive

/-! ### Order -/

theorem Canonical.lt_of_lex {m n : ℕ} {e f : ℤ} (hm : Canonical m e) (hn : Canonical n f)
    (hlex : e < f ∨ e = f ∧ m < n) : (m * 2 ^ e : ℚ) < n * 2 ^ f := by
  rcases hlex with he | ⟨rfl, hlt⟩
  · have hlong : 2 ^ 52 ≤ n := hn.long.resolve_right (by have := hm.least; omega)
    calc
      (m * 2 ^ e : ℚ) < 2 ^ 53 * 2 ^ e := by
        gcongr
        exact_mod_cast hm.lt
      _ = 2 ^ 52 * 2 ^ (e + 1) := by
        rw [zpow_add_one₀ two_ne_zero]
        ring
      _ ≤ n * 2 ^ f := by
        gcongr
        · exact_mod_cast hlong
        · exact one_le_two
        · omega
  · gcongr

theorem Canonical.compare_eq {m n : ℕ} {e f : ℤ} (hm : Canonical m e) (hn : Canonical n f) :
    (compare e f).then (compare m n) = compare (m * 2 ^ e : ℚ) (n * 2 ^ f) := by
  rcases lt_trichotomy e f with he | rfl | he
  · rw [compare_lt_iff_lt.mpr he, compare_lt_iff_lt.mpr (hm.lt_of_lex hn (.inl he))]
    rfl
  · rw [compare_eq_iff_eq.mpr rfl, Ordering.eq_then]
    rcases lt_trichotomy m n with hlt | rfl | hlt
    · rw [compare_lt_iff_lt.mpr hlt, compare_lt_iff_lt.mpr (hm.lt_of_lex hn (.inr ⟨rfl, hlt⟩))]
    · rw [compare_eq_iff_eq.mpr rfl, compare_eq_iff_eq.mpr rfl]
    · rw [compare_gt_iff_gt.mpr hlt, compare_gt_iff_gt.mpr (hn.lt_of_lex hm (.inr ⟨rfl, hlt⟩))]
  · rw [compare_gt_iff_gt.mpr he, compare_gt_iff_gt.mpr (hn.lt_of_lex hm (.inl he))]
    rfl

private theorem compare_neg_neg_rat (p q : ℚ) : compare (-p) (-q) = (compare p q).swap := by
  rw [← Std.OrientedOrd.eq_swap]
  grind [compare_lt_iff_lt, compare_gt_iff_gt, compare_eq_iff_eq]

theorem Denotes.compare_eq {u v : UnpackedFloat} {p q : ℚ} (hu : Denotes u p) (hv : Denotes v q) :
    u.compare v = some (compare p q) := by
  have hpos {m : ℕ} (e : ℤ) (hm : 0 < m) : (0 : ℚ) < m * 2 ^ e := by positivity
  cases hu with
  | zero s =>
    cases hv with
    | zero t => rfl
    | @finite t n f hn hcanonical =>
      have hn := hpos f hn
      rw [apply_mul_eq]
      cases t with
      | negative =>
        change some Ordering.gt = some (compare 0 (-(n * 2 ^ f : ℚ)))
        rw [compare_gt_iff_gt.mpr (by linarith)]
      | positive =>
        change some Ordering.lt = some (compare 0 (n * 2 ^ f : ℚ))
        rw [compare_lt_iff_lt.mpr hn]
  | @finite s m e hm hcanonical =>
    have hm := hpos e hm
    cases hv with
    | zero t =>
      rw [apply_mul_eq]
      cases s with
      | negative =>
        change some Ordering.lt = some (compare (-(m * 2 ^ e : ℚ)) 0)
        rw [compare_lt_iff_lt.mpr (by linarith)]
      | positive =>
        change some Ordering.gt = some (compare (m * 2 ^ e : ℚ) 0)
        rw [compare_gt_iff_gt.mpr hm]
    | @finite t n f hn hcanonical' =>
      have hn := hpos f hn
      rw [apply_mul_eq, apply_mul_eq]
      -- Numbers of different signs are told apart by them, and negative ones compare the other way round.
      cases s with
      | negative =>
        cases t with
        | negative =>
          change some ((compare e f).then (compare m n)).swap = some (compare (-(m * 2 ^ e : ℚ)) (-(n * 2 ^ f)))
          rw [hcanonical.compare_eq hcanonical', compare_neg_neg_rat]
        | positive =>
          change some Ordering.lt = some (compare (-(m * 2 ^ e : ℚ)) (n * 2 ^ f))
          rw [compare_lt_iff_lt.mpr (by linarith)]
      | positive =>
        cases t with
        | negative =>
          change some Ordering.gt = some (compare (m * 2 ^ e : ℚ) (-(n * 2 ^ f)))
          rw [compare_gt_iff_gt.mpr (by linarith)]
        | positive =>
          change some ((compare e f).then (compare m n)) = some (compare (m * 2 ^ e : ℚ) (n * 2 ^ f))
          rw [hcanonical.compare_eq hcanonical']

section

variable {x y : Float} {p q : ℚ}

theorem StandsFor.compare_eq (hx : StandsFor x p) (hy : StandsFor y q) :
    x.toModel.unpack.compare y.toModel.unpack = some (compare p q) :=
  (standsFor_iff_denotes.mp hx).compare_eq (standsFor_iff_denotes.mp hy)

theorem StandsFor.lt_iff (hx : StandsFor x p) (hy : StandsFor y q) : x < y ↔ p < q := by
  have hmodel : x < y ↔ x.toModel.unpack.lt y.toModel.unpack = true := decide_eq_true_iff
  rw [hmodel, UnpackedFloat.lt, hx.compare_eq hy, beq_iff_eq, Option.some.injEq, compare_lt_iff_lt]

theorem StandsFor.le_iff (hx : StandsFor x p) (hy : StandsFor y q) : x ≤ y ↔ p ≤ q := by
  have hmodel : x ≤ y ↔ x.toModel.unpack.le y.toModel.unpack = true := decide_eq_true_iff
  rw [hmodel, UnpackedFloat.le, hx.compare_eq hy, Option.any_some, Ordering.isLE_iff_ne_gt,
    compare_gt_iff_gt, not_lt]

end

/-! ### Cutting off the fraction -/

/-- The whole number that is left when the fraction is cut off. -/
def truncated (q : ℚ) : ℤ := if q < 0 then -⌊-q⌋ else ⌊q⌋

theorem truncated_of_nonneg {q : ℚ} (hq : 0 ≤ q) : truncated q = ⌊q⌋ := if_neg (not_lt.mpr hq)

theorem truncated_intCast (n : ℤ) : truncated n = n := by
  rw [truncated, ← Int.cast_neg, Int.floor_intCast, Int.floor_intCast, neg_neg, ite_self]

theorem floor_mul_zpow (m : ℕ) (e : ℤ) : ⌊(m * 2 ^ e : ℚ)⌋ = (m <<< e.toNat >>> (-e).toNat : ℕ) := by
  rw [Nat.shiftLeft_eq, Nat.shiftRight_eq_div_pow]
  rcases le_total 0 e with he | he
  · obtain ⟨k, rfl⟩ := Int.eq_ofNat_of_zero_le he
    have hwhole : (m * 2 ^ (k : ℤ) : ℚ) = (m * 2 ^ k : ℕ) := by
      rw [zpow_natCast]
      push_cast
      rfl
    have hnone : (-(k : ℤ)).toNat = 0 := by omega
    rw [hwhole, Int.floor_natCast, hnone, pow_zero, Nat.div_one, Int.toNat_natCast]
  · obtain ⟨k, hk⟩ := Int.eq_ofNat_of_zero_le (neg_nonneg.mpr he)
    obtain rfl : e = -k := by omega
    have hquotient : (m * 2 ^ (-k : ℤ) : ℚ) = (m : ℚ) / (2 ^ k : ℕ) := by
      rw [zpow_neg, zpow_natCast, ← div_eq_mul_inv]
      push_cast
      rfl
    have hnone : (-(k : ℤ)).toNat = 0 := by omega
    rw [hquotient, hnone, pow_zero, mul_one, neg_neg, Int.toNat_natCast, Rat.floor_natCast_div_natCast]
    push_cast
    rfl

theorem StandsFor.truncate?_eq {x : Float} {q : ℚ} (hx : StandsFor x q) : truncate? x = some (truncated q) := by
  rw [StandsFor] at hx
  rw [truncate?]
  cases hparts : ofFloat x with
  | nan =>
    rw [hparts] at hx
    cases hx
  | infinite negative =>
    rw [hparts] at hx
    cases hx
  | finite negative m e =>
    rw [hparts, value?, Option.some_inj] at hx
    have hsize : (0 : ℚ) ≤ m * 2 ^ e := by positivity
    simp only [← floor_mul_zpow m e, ← hx]
    cases negative with
    | false => rw [if_neg Bool.false_ne_true, if_neg Bool.false_ne_true, truncated_of_nonneg hsize]
    | true =>
      rw [if_pos rfl, if_pos rfl, truncated, neg_neg]
      split
      · rfl
      · next hneg =>
        -- Minus zero is not negative, and cutting off its fraction leaves zero.
        have hzero : (m * 2 ^ e : ℚ) = 0 := by linarith
        rw [hzero]
        rfl

end RegionGrid.Binary64
