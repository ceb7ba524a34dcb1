/-!
# Doubles as exact numbers

A finite double is a whole number times a power of two. This module takes a double apart into those
two, and goes back: from a quotient of natural numbers to the double nearest to it, a tie going to
the neighbour with the even mantissa, and to infinity from where the format ends. All of it is
arithmetic on natural numbers and bit patterns.
-/

namespace RegionGrid

/-- What a double stands for. -/
inductive Binary64 where
  /-- The number `mantissa * 2 ^ exponent`, negated if `negative`; zero has both signs. -/
  | finite (negative : Bool) (mantissa : Nat) (exponent : Int)
  | infinite (negative : Bool)
  | nan

namespace Binary64

def ofFloat (x : Float) : Binary64 :=
  let bits := x.toBits.toNat
  let negative := bits >>> 63 == 1
  let exponent : Nat := bits >>> 52 % 0x800
  let fraction := bits % 1 <<< 52
  if exponent = 0x7ff then (if fraction = 0 then infinite negative else nan)
  else if exponent = 0 then finite negative fraction (-1074)
  else finite negative (1 <<< 52 + fraction) ((exponent : Int) - 1075)

/-- The quotient rounded to a whole number, a half to the even neighbour. -/
def roundedQuotient (num den : Nat) : Nat :=
  let whole := num / den
  let twice := 2 * (num % den)
  if twice < den then whole
  else if den < twice then whole + 1
  else whole + whole % 2

/-- The quotient `num / (den * 2 ^ shift)` rounded to a whole number, a half to the even one. -/
def scaledQuotient (num den : Nat) (shift : Int) : Nat :=
  roundedQuotient (num <<< (-shift).toNat) (den <<< shift.toNat)

/--
The exponent of the double nearest to a positive quotient, as the weight of its last bit: its
mantissa has 53 bits, unless the quotient is smaller than the smallest normal double.
-/
def lastBit (num den : Nat) : Int :=
  let order : Int := (num.log2 : Int) - den.log2
  let normal := if den <<< order.toNat ≤ num <<< (-order).toNat then order - 52 else order - 53
  max normal (-1074)

/-- The bit pattern of the double nearest to a quotient, or of infinity. -/
def nearestBits (num den : Nat) : Nat :=
  if num = 0 then 0
  else if 1024 < (num.log2 : Int) - den.log2 then 0x7ff <<< 52
  else
    let weight := lastBit num den
    min ((weight + 1074).toNat <<< 52 + scaledQuotient num den weight) (0x7ff <<< 52)

/-- The double nearest to a quotient of natural numbers, negated if `negative`. -/
def nearest (negative : Bool) (num den : Nat) : Float :=
  Float.ofBits (UInt64.ofNat (nearestBits num den + if negative then 1 <<< 63 else 0))

/-- The double nearest to a whole number; none when that would be infinity. -/
def ofInt? (n : Int) : Option Float :=
  if nearestBits n.natAbs 1 < 0x7ff <<< 52 then some (nearest (n < 0) n.natAbs 1) else none

/-- What is said about a whole number that no double is near to. -/
def tooLargeMessage : String := "int too large to convert to float"

/-- Whether a natural number is less than a double, compared exactly. -/
def natLt (n : Nat) (x : Float) : Bool :=
  match ofFloat x with
  | finite negative mantissa exponent =>
    !negative && n <<< (-exponent).toNat < mantissa <<< exponent.toNat
  | infinite negative => !negative
  | nan => false

/-- The whole number that is left of a finite double when its fraction is cut off. -/
def truncate? (x : Float) : Option Int :=
  match ofFloat x with
  | finite negative mantissa exponent =>
    let size : Nat := mantissa <<< exponent.toNat >>> (-exponent).toNat
    some (if negative then -size else size)
  | _ => none

end Binary64

end RegionGrid
