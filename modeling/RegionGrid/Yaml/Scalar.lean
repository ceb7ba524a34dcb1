import RegionGrid.Number.Numeral
import RegionGrid.Text.Base64
import RegionGrid.Text.Case
import RegionGrid.Value
import RegionGrid.Yaml.Fault
import RegionGrid.Yaml.Tag

/-!
# The values of scalars

What the text of a scalar stands for under its tag. The tag alone decides how the text is read, so a
text that has not the form of its tag is a fault.
-/

namespace RegionGrid.Yaml

/-- A sign and the text after it. An empty text has neither. -/
private def signedText (text : List Char) : Except Fault (Bool × List Char) :=
  if text.isEmpty then .error .emptyNumber else .ok (splitSign text)

/-- The parts of a text between its colons. -/
private def colonParts (text : List Char) : List (List Char) := text.splitOnP (· == ':')

/-- The whole number that a text writes in a base. Only in decimal is the number of digits limited. -/
private def wholeNumber (base : Nat) (s : List Char) : Except Fault Int :=
  if base = 10 ∧ mostDigits < digitCount s then .error (.tooManyDigits (digitCount s))
  else
    match if base = 10 then wholeNumber? s else wholeNumberInBase? base s with
    | some n => .ok n
    | none => .error (.notInteger base (String.ofList s))

/-- The integer that a scalar tagged as one stands for. -/
private def intValue (text : List Char) : Except Fault Int := do
  let (negative, digits) ← signedText (text.filter (· ≠ '_'))
  let size ← match digits with
    | [] => .error .emptyNumber
    | ['0'] => .ok 0
    | '0' :: 'b' :: rest => wholeNumber 2 rest
    | '0' :: 'x' :: rest => wholeNumber 16 rest
    | '0' :: _ => wholeNumber 8 digits
    | _ =>
      if digits.contains ':' then do
        let parts ← (colonParts digits).mapM (wholeNumber 10)
        pure (parts.foldl (fun n part => 60 * n + part) 0)
      else wholeNumber 10 digits
  return if negative then -size else size

/-- A float in groups of sixty, the last group first. The weight of every group must be a double. -/
private def sixtiesValue (parts : List Float) : Except Fault Float := do
  let add (sum : Float × Nat) (part : Float) : Except Fault (Float × Nat) := do
    let some weight := Binary64.ofInt? sum.2 | throw .tooLarge
    return (sum.1 + part * weight, sum.2 * 60)
  return (← parts.foldlM add (0.0, 1)).1

/-- The digits of a scalar tagged as a float, and whether they come after a minus sign. -/
private def floatDigits (text : String) : Except Fault (Bool × List Char) :=
  signedText (lowerCase (String.ofList (text.toList.filter (· ≠ '_')))).toList

/-- The float that a scalar tagged as one stands for. -/
private def floatValue (text : String) : Except Fault Float := do
  let (negative, digits) ← floatDigits text
  let read (s : List Char) : Except Fault Float :=
    (realNumber? s).elim (.error (.notFloat (String.ofList s))) .ok
  let size ←
    if digits = ".inf".toList then pure (1.0 / 0.0)
    else if digits = ".nan".toList then pure (0.0 / 0.0)
    else if digits.contains ':' then do
      let parts ← (colonParts digits).mapM read
      sixtiesValue parts.reverse
    else read digits
  return if negative then -size else size

/-- The truth value that a scalar tagged as one stands for. -/
private def boolValue (text : String) : Except Fault Bool :=
  let word := lowerCase text
  if ["yes", "true", "on"].contains word then .ok true
  else if ["no", "false", "off"].contains word then .ok false
  else .error (.notBool word)

/-- The day or the time that a scalar tagged as one stands for. -/
private def timeValue (text : List Char) : Except Fault Value := do
  let some t := WrittenTime.ofChars? (Chars.withoutFinalBreak text) | throw .notTime
  match t.clock? with
  | none => ((Date.ofNumbers t.year t.month t.day).mapError .noSuchTime).map .date
  | some c =>
    ((Moment.ofNumbers t.year t.month t.day c.hour c.minute c.second
      (WrittenTime.millionths c.fraction) c.offset?).mapError .noSuchTime).map .moment

/-- The bytes that a scalar tagged as binary stands for. -/
private def bytesValue (text : List Char) : Except Fault (List UInt8) :=
  if text.all (·.toNat < 0x80) then (base64Bytes? text).elim (.error .malformed) .ok
  else .error .malformed

/-- The value of a scalar. -/
def scalarValue (tag : Tag) (text : String) : Except Fault Value :=
  match tag with
  | .null => .ok .null
  | .bool => (boolValue text).map .bool
  | .int => (intValue text.toList).map .int
  | .float => (floatValue text).map .float
  | .time => timeValue text.toList
  | .binary => (bytesValue text.toList).map .bytes
  | .string => .ok (.string text)
  | .sequence | .mapping | .pairs | .set | .merge | .default | .unknown => .error .malformed

/-- Whether a scalar is the word for what is no number, which stands for the same one everywhere. -/
def isNoNumberWord (tag : Tag) (text : String) : Bool :=
  tag == .float && (floatDigits text).toOption.any (·.2 == ".nan".toList)

end RegionGrid.Yaml
