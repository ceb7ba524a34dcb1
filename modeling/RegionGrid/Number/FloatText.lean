import RegionGrid.Number.Binary64
import RegionGrid.Number.Decimal

/-!
# Doubles in decimal

The two ways in which a double is written. The *shortest* text has the fewest digits that read back
as the same double, and of those the ones nearest to it. The *rounded* text has six significant
digits, rounded from the exact value with a half going to the even digit.

Both work on the exact value: a positive double is a quotient of natural numbers, and the doubles
around it bound the quotients that read back as it.
-/

namespace RegionGrid

/-- A positive finite double as a quotient. -/
def quotientOf (mantissa : Nat) (exponent : Int) : Nat × Nat :=
  (mantissa <<< exponent.toNat, 1 <<< (-exponent).toNat)

/-- The decimal number with the given count of digits that is nearest to a positive quotient. -/
def Decimal.rounded (digits num den : Nat) : Decimal :=
  let exponent := Decimal.order num den - digits
  let num' := num * Nat.pow 10 (-exponent).toNat
  let den' := den * Nat.pow 10 exponent.toNat
  ⟨Binary64.roundedQuotient num' den', exponent⟩

/--
The quotients that read back as the double `mantissa * 2 ^ exponent`, in quarters of its last bit:
the bounds, and whether they belong to them. Below a power of two the next double is only half as
far away.
-/
def readBackQuarters (mantissa : Nat) (exponent : Int) : Nat × Nat × Bool :=
  let below := if mantissa = 1 <<< 52 ∧ -1074 < exponent then 1 else 2
  (4 * mantissa - below, 4 * mantissa + 2, mantissa % 2 == 0)

/-- The nearest decimal number with the given count of digits that reads back as the double. -/
def readingBack? (mantissa : Nat) (exponent : Int) (digits : Nat) : Option Decimal :=
  let (num, den) := quotientOf mantissa exponent
  let unit := Decimal.order num den - digits
  let (low, high, closed) := readBackQuarters mantissa exponent
  -- The quarters and the decimal grid, brought to one denominator.
  let quarter := Nat.pow 10 (-unit).toNat <<< exponent.toNat
  let step := 4 * Nat.pow 10 unit.toNat <<< (-exponent).toNat
  let value := 4 * mantissa * quarter
  let readsBack (d : Nat) : Bool :=
    if closed then low * quarter ≤ d * step && d * step ≤ high * quarter
    else low * quarter < d * step && d * step < high * quarter
  let below := value / step
  let above := below + 1
  let nearer :=
    if 2 * (value % step) < step ∨ (2 * (value % step) = step ∧ below % 2 = 0) then below else above
  let farther := if nearer = below then above else below
  if readsBack nearer then some ⟨nearer, unit⟩
  else if readsBack farther then some ⟨farther, unit⟩
  else none

/-- The shortest decimal number that reads back as the double `mantissa * 2 ^ exponent`. -/
def Decimal.shortest (mantissa : Nat) (exponent : Int) : Decimal :=
  ((List.range' 1 17).findSome? (readingBack? mantissa exponent)).getD
    (let (num, den) := quotientOf mantissa exponent; Decimal.rounded 17 num den)

/-- A text with a minus sign in front of it if the number is negative. -/
def signed (negative : Bool) (s : String) : String := if negative then "-" ++ s else s

/-- A whole number of moderate size keeps a `.0`, so that it reads back as a double. -/
def shortestStyle : DecimalStyle := ⟨15, ".0"⟩

/-- The text with the fewest digits that reads back as the double. -/
def shortestText (x : Float) : String :=
  match Binary64.ofFloat x with
  | .nan => "nan"
  | .infinite negative => signed negative "inf"
  | .finite negative 0 _ => signed negative "0.0"
  | .finite negative mantissa exponent =>
    signed negative ((Decimal.shortest mantissa exponent).text shortestStyle)

/-- Six digits leave no place for larger whole numbers, and a whole number has no point. -/
def roundedStyle : DecimalStyle := ⟨5, ""⟩

def roundedText (x : Float) : String :=
  match Binary64.ofFloat x with
  | .nan => "nan"
  | .infinite negative => signed negative "inf"
  | .finite negative 0 _ => signed negative "0"
  | .finite negative mantissa exponent =>
    let (num, den) := quotientOf mantissa exponent
    signed negative ((Decimal.rounded 6 num den).text roundedStyle)

end RegionGrid
