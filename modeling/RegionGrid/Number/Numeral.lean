import RegionGrid.Number.Binary64
import RegionGrid.Text.Blank
import RegionGrid.Text.Digit

/-!
# Numerals

Numbers as they are written in text: whole numbers, decimal numerals, and real numbers with an
exponent. The digits may be those of any script. A numeral is read into the exact number it stands
for; its double is the one nearest to that number. A whole number in decimal has a limited number of
digits, both where it is read and where it is written.
-/

namespace RegionGrid

/-- The number `coefficient * 10 ^ exponent`, negated if `negative`. -/
structure Numeral where
  negative : Bool
  coefficient : Nat
  exponent : Int
  deriving DecidableEq, Repr

namespace Numeral

/-- The digits of a decimal numeral: those before the point and those after it. -/
def ofDigits (negative : Bool) (whole fraction : List Char) (exponent : Int) : Numeral :=
  ⟨negative, digitsValue (whole ++ fraction), exponent - fraction.length⟩

/--
The double nearest to the number. Numbers far outside of the range of doubles are infinity or zero
without a computation of their digits.
-/
def toFloat (n : Numeral) : Float :=
  let order := (Nat.toDigits 10 n.coefficient).length + n.exponent
  if n.coefficient = 0 ∨ order < -330 then Binary64.nearest n.negative 0 1
  else if 310 < order then Binary64.nearest n.negative (1 <<< 1025) 1
  else Binary64.nearest n.negative (n.coefficient * Nat.pow 10 n.exponent.toNat)
    (Nat.pow 10 (-n.exponent).toNat)

/--
Reads a numeral at the start of a text: an optional minus sign, digits, and optionally a point and
more digits. Gives the numeral and the rest of the text.
-/
def read? (s : List Char) : Option (Numeral × List Char) :=
  let negative := s.head? == some '-'
  let unsigned := if negative then s.tail else s
  let (whole, rest) := unsigned.span isDecimalDigit
  if whole.isEmpty then none
  else match rest with
    | '.' :: more =>
      let (fraction, rest') := more.span isDecimalDigit
      if fraction.isEmpty then some (ofDigits negative whole [] 0, rest)
      else some (ofDigits negative whole fraction 0, rest')
    | _ => some (ofDigits negative whole [] 0, rest)

end Numeral

/-- Takes a sign off a text: whether it is a minus sign, and the rest. -/
def splitSign : List Char → Bool × List Char
  | '-' :: rest => (true, rest)
  | '+' :: rest => (false, rest)
  | s => (false, s)

/-- The digits of a whole number, once the single underscores between digits are left out. -/
def ungrouped? (isDigit : Char → Bool) : List Char → Option (List Char)
  | [] => none
  | [c] => if isDigit c then some [c] else none
  | c :: '_' :: rest => if isDigit c then (ungrouped? isDigit rest).map (c :: ·) else none
  | c :: rest => if isDigit c then (ungrouped? isDigit rest).map (c :: ·) else none

/-- White space that may stand around a number. The information separators do not belong to it. -/
def isNumberBlank (c : Char) : Bool := isBlank c && !(0x1c ≤ c.toNat && c.toNat ≤ 0x1f)

/-- A whole number: blanks around it, a sign, and digits with single underscores between them. -/
def wholeNumber? (s : List Char) : Option Int :=
  let (negative, digits) := splitSign (Chars.trimBy isNumberBlank s)
  (ungrouped? isDecimalDigit digits).map fun ds =>
    if negative then -(digitsValue ds : Int) else digitsValue ds

/-- The most digits that a whole number has in decimal, leading zeros included. -/
def mostDigits : Nat := 4300

/-- The number of digits that a text which may be a whole number starts with. -/
def digitCount (s : List Char) : Nat :=
  let (_, digits) := splitSign (Chars.trimBy isNumberBlank s)
  (digits.takeWhile fun c => isDecimalDigit c || c == '_').countP isDecimalDigit

/-- A whole number that has not too many digits. -/
def shortWholeNumber? (s : List Char) : Option Int :=
  if mostDigits < digitCount s then none else wholeNumber? s

/-- Whether a whole number has few enough digits to be written. -/
def isWritable (n : Int) : Bool := n.natAbs < Nat.pow 10 mostDigits

/-- What is said in place of a text that would hold a whole number with too many digits. -/
def unwritableMessage : String :=
  s!"Exceeds the limit ({mostDigits} digits) for integer string conversion; " ++
    "use sys.set_int_max_str_digits() to increase the limit"

/-- The value of a digit in a base up to sixteen. -/
def baseDigit? (base : Nat) (c : Char) : Option Nat :=
  let value? :=
    if 'a' ≤ c ∧ c ≤ 'f' then some (c.toNat - 'a'.toNat + 10)
    else if 'A' ≤ c ∧ c ≤ 'F' then some (c.toNat - 'A'.toNat + 10)
    else digitValue? c
  value?.filter (· < base)

/-- The mark that may stand before the digits of a base: `0b`, `0o` or `0x`, in either case. -/
def dropBaseMark (base : Nat) : List Char → List Char
  | '0' :: c :: rest =>
    let mark := c.toLower
    if (base == 2 && mark == 'b') || (base == 8 && mark == 'o') || (base == 16 && mark == 'x')
    then rest else '0' :: c :: rest
  | s => s

/-- A whole number in a base: blanks around it, a sign, the mark of the base, and digits. -/
def wholeNumberInBase? (base : Nat) (s : List Char) : Option Int :=
  let (negative, marked) := splitSign (Chars.trimBy isNumberBlank s)
  let digits := dropBaseMark base marked
  if digits.isEmpty then none
  else (digits.mapM (baseDigit? base)).map fun ds =>
    let size : Nat := ds.foldl (fun n d => base * n + d) 0
    if negative then -(size : Int) else size

/-- An exponent with its mark, or nothing. -/
def exponentPart? : List Char → Option Int
  | [] => some 0
  | c :: rest =>
    if c.toLower ≠ 'e' then none
    else
      let (negative, digits) := splitSign rest
      if digits.isEmpty || !digits.all isDecimalDigit then none
      else if negative then some (-(digitsValue digits : Int)) else some (digitsValue digits)

/--
A real number: blanks around it, a sign, and either the word `inf`, `infinity` or `nan`, or digits
with a point before, between or after them and an exponent.
-/
def realNumber? (s : List Char) : Option Float :=
  let (negative, size) := splitSign (Chars.trimBy isNumberBlank s)
  let word := size.map Char.toLower
  if word = "inf".toList ∨ word = "infinity".toList then
    some (Binary64.nearest negative (1 <<< 1025) 1)
  else if word = "nan".toList then some (0.0 / 0.0)
  else
    let (whole, rest) := size.span isDecimalDigit
    let (fraction, rest) := match rest with
      | '.' :: more => more.span isDecimalDigit
      | _ => ([], rest)
    if whole.isEmpty && fraction.isEmpty then none
    else (exponentPart? rest).map fun exponent =>
      (Numeral.ofDigits negative whole fraction exponent).toFloat

end RegionGrid
