import RegionGrid.Calendar
import RegionGrid.Number.Numeral
import RegionGrid.Text.Quoted

/-!
# What can be wrong with a YAML text

Either the text is no document, or one of its scalars does not write what its tag announces. Only the
kind of the first is told, not the place.
-/

namespace RegionGrid.Yaml

/-- Why a text has no value. -/
inductive Fault where
  /-- The text is not a YAML document of the supported kind. -/
  | malformed
  /-- The bytes of the document encode no text. -/
  | notText
  /-- Collections are nested too deeply, or the text of a scalar is looked for in itself. -/
  | tooDeep
  /-- An escape sequence names a code point that does not exist. -/
  | noSuchCharacter (code : Nat)
  /-- A scalar tagged as an integer is none in the base that its first characters announce. -/
  | notInteger (base : Nat) (text : String)
  /-- A whole number has too many digits. -/
  | tooManyDigits (count : Nat)
  /-- A scalar tagged as a float is none. -/
  | notFloat (text : String)
  /-- A float is written in groups of sixty, and the first group weighs more than any double. -/
  | tooLarge
  /-- A scalar tagged as a truth value is none. -/
  | notBool (text : String)
  /-- A scalar tagged as a number has no digits. -/
  | emptyNumber
  /-- A scalar tagged as a time has not the form of one. -/
  | notTime
  /-- A time is given by an entry of a mapping. -/
  | timeInMapping
  /-- The numbers of a time are out of their ranges. -/
  | noSuchTime (e : CalendarError)
  deriving DecidableEq, Repr

namespace Fault

/-- How many characters of a text are shown where it should be an integer. -/
def shownCharacters : Nat := 200

/-- The fault in words. -/
def message : Fault → String
  | malformed => "<YAMLError>"
  | notText => "<UnicodeDecodeError>"
  | tooDeep => "maximum recursion depth exceeded"
  | noSuchCharacter code =>
    if code < 1 <<< 31 then "chr() arg not in range(0x110000)"
    else "Python int too large to convert to C int"
  | notInteger base text =>
    s!"invalid literal for int() with base {base}: " ++
      String.ofList ((quoted text).toList.take shownCharacters)
  | tooManyDigits count =>
    s!"Exceeds the limit ({mostDigits} digits) for integer string conversion: value has {count} " ++
      "digits; use sys.set_int_max_str_digits() to increase the limit"
  | notFloat text => s!"could not convert string to float: {quoted text}"
  | tooLarge => Binary64.tooLargeMessage
  | notBool text => quoted text
  | emptyNumber => "string index out of range"
  | notTime => "'NoneType' object has no attribute 'groupdict'"
  | timeInMapping => "expected string or bytes-like object, got 'list'"
  | noSuchTime e => e.message

/--
Whether the fault is reported like a malformed definition; the others stop the program. A code point
that does not fit into 31 bits is not even looked up, and stops it too.
-/
def isReported : Fault → Bool
  | malformed | notText | notInteger _ _ | tooManyDigits _ | notFloat _ | noSuchTime _ => true
  | noSuchCharacter code => code < 1 <<< 31
  | tooDeep | tooLarge | notBool _ | emptyNumber | notTime | timeInMapping => false

end Fault

end RegionGrid.Yaml
