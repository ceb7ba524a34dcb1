/-!
# Decimal notation

A positive number in decimal is a coefficient times a power of ten. How it is written is a matter of
style: within a range of sizes by its places alone, outside of it with one digit before the point and
an exponent. Trailing zeros of the coefficient are never written.
-/

namespace RegionGrid

/-- The number `coefficient * 10 ^ exponent`. -/
structure Decimal where
  coefficient : Nat
  exponent : Int
  deriving DecidableEq, Repr

structure DecimalStyle where
  /-- The largest decimal exponent that is written by places alone; the smallest is -4. -/
  highest : Int
  /-- What follows a whole number that is written by places alone. -/
  wholeSuffix : String

namespace Decimal

def significantDigits (d : Decimal) : List Char :=
  ((Nat.toDigits 10 d.coefficient).reverse.dropWhile (· == '0')).reverse

/-- The exponent of the number when one digit stands before the point. -/
def leadingExponent (d : Decimal) : Int :=
  (Nat.toDigits 10 d.coefficient).length - 1 + d.exponent

/-- The decimal order of a positive quotient: it is at least `10 ^ (t - 1)` and less than `10 ^ t`. -/
def order (num den : Nat) : Int :=
  if den ≤ num then (Nat.toDigits 10 (num / den)).length
  else 1 - (Nat.toDigits 10 ((den - 1) / num)).length

/-- The digits written by places alone, the first one weighing `10 ^ exponent`. -/
def placed (digits : List Char) (exponent : Int) (wholeSuffix : String) : String :=
  if exponent < 0 then
    "0." ++ String.ofList (List.replicate (-exponent - 1).toNat '0' ++ digits)
  else
    let whole := exponent.toNat + 1
    if digits.length ≤ whole then
      String.ofList (digits ++ List.replicate (whole - digits.length) '0') ++ wholeSuffix
    else String.ofList (digits.take whole) ++ "." ++ String.ofList (digits.drop whole)

/-- The exponent's sign and at least two digits. -/
def exponentText (exponent : Int) : String :=
  let size := exponent.natAbs
  (if exponent < 0 then "e-" else "e+") ++ (if size < 10 then "0" else "") ++ toString size

def text (style : DecimalStyle) (d : Decimal) : String :=
  let digits := d.significantDigits
  let exponent := d.leadingExponent
  if -4 ≤ exponent ∧ exponent ≤ style.highest then placed digits exponent style.wholeSuffix
  else
    let mantissa := match digits with
      | first :: [] => String.ofList [first]
      | first :: more => String.ofList (first :: '.' :: more)
      | [] => ""
    mantissa ++ exponentText exponent

end Decimal

end RegionGrid
