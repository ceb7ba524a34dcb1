import RegionGrid.Yaml.Cursor
import RegionGrid.Yaml.Time

/-!
# Tags

The tag of a node says what its text or its items stand for. A plain scalar without a tag gets one by
the form of its text: the words for nothing and for truth values, integers in four bases and in groups
of sixty, floats, which must have a point, and times.
-/

namespace RegionGrid.Yaml

/-- What a node stands for. -/
inductive Tag where
  | null
  | bool
  | int
  | float
  | time
  | binary
  | string
  | sequence
  | mapping
  /-- A sequence of mappings with one entry each, which become pairs. -/
  | pairs
  /-- A mapping of which only the keys count. -/
  | set
  /-- A key that merges its value into the mapping. -/
  | merge
  /-- A key for the value of a mapping as a whole. -/
  | default
  | unknown
  deriving DecidableEq, Repr

namespace Tag

/-- What the URIs of the tags in this library start with. -/
def standardUri : String := "tag:yaml.org,2002:"

/-- The tag that has a URI. -/
def ofUri (uri : String) : Tag :=
  let known : List (String × Tag) :=
    [("null", null), ("bool", bool), ("int", int), ("float", float), ("timestamp", time),
     ("binary", binary), ("str", string), ("seq", sequence), ("map", mapping), ("omap", pairs),
     ("pairs", pairs), ("set", set), ("merge", merge), ("value", default)]
  ((known.find? fun (name, _) => standardUri ++ name == uri).map (·.2)).getD unknown

/-! ### The forms of plain scalars -/

private def nullWords : List String := ["", "~", "null", "Null", "NULL"]

private def boolWords : List String :=
  ["yes", "Yes", "YES", "no", "No", "NO", "true", "True", "TRUE", "false", "False", "FALSE",
   "on", "On", "ON", "off", "Off", "OFF"]

private def withoutSign : List Char → List Char
  | '+' :: rest => rest
  | '-' :: rest => rest
  | s => s

private def isGrouped (isDigit : Char → Bool) (s : List Char) : Bool :=
  s.all fun c => isDigit c || c == '_'

/-- A digit, and then digits and underscores. -/
private def isDigits : List Char → Bool
  | c :: rest => c.isDigit && isGrouped Char.isDigit rest
  | [] => false

/-- At least one group of sixty, each after a colon. -/
private def areSixties : List Char → Bool
  | [':', b] => b.isDigit
  | [':', a, b] => '0' ≤ a && a ≤ '5' && b.isDigit
  | ':' :: a :: ':' :: rest => a.isDigit && areSixties (':' :: rest)
  | ':' :: a :: b :: ':' :: rest => '0' ≤ a && a ≤ '5' && b.isDigit && areSixties (':' :: rest)
  | _ => false

private def isInt (s : List Char) : Bool :=
  match withoutSign s with
  | ['0'] => true
  | '0' :: 'b' :: rest => !rest.isEmpty && isGrouped (fun c => c == '0' || c == '1') rest
  | '0' :: 'x' :: rest =>
    let isDigit (c : Char) : Bool := c.isDigit || ('a' ≤ c && c ≤ 'f') || ('A' ≤ c && c ≤ 'F')
    !rest.isEmpty && isGrouped isDigit rest
  | '0' :: rest => isGrouped (fun c => '0' ≤ c && c ≤ '7') rest
  | digits =>
    let (whole, sixties) := digits.span (· ≠ ':')
    isDigits whole && (sixties.isEmpty || areSixties sixties)

/-- An exponent with its sign, or nothing. -/
private def isExponent : List Char → Bool
  | [] => true
  | e :: sign :: digits =>
    (e == 'e' || e == 'E') && (sign == '-' || sign == '+') && !digits.isEmpty &&
      digits.all Char.isDigit
  | _ => false

private def isFraction (s : List Char) : Bool :=
  isExponent (s.dropWhile fun c => c.isDigit || c == '_')

private def isFloat (s : List Char) : Bool :=
  match s with
  | '.' :: rest =>
    (isDigits (rest.take 1) && isFraction rest) ||
      ["nan", "NaN", "NAN", "inf", "Inf", "INF"].contains (String.ofList rest)
  | _ =>
    match withoutSign s with
    | '.' :: rest => ["inf", "Inf", "INF"].contains (String.ofList rest)
    | size =>
      let (whole, rest) := size.span (· ≠ '.')
      match rest with
      | '.' :: fraction =>
        (isDigits whole && isFraction fraction) ||
          (let (first, sixties) := whole.span (· ≠ ':')
           isDigits first && areSixties sixties && isGrouped Char.isDigit fraction)
      | _ => false

/-- The marks of properties and aliases have a tag of their own, which stands for nothing. -/
private def markWords : List String := ["!", "&", "*"]

private def ofWord (s : List Char) : Tag :=
  let text := String.ofList s
  if nullWords.contains text then null
  else if boolWords.contains text then bool
  else if text == "<<" then merge
  else if text == "=" then default
  else if markWords.contains text then unknown
  else if isInt s then int
  else if isFloat s then float
  else if WrittenTime.isPlain s then time
  else string

/-- The tag of a plain scalar that has none. A line feed at the end of its text makes no difference. -/
def ofPlain (text : String) : Tag :=
  match text.toList with
  | ['\n'] => string
  | s => ofWord (Chars.withoutFinalBreak s)

end Tag

end RegionGrid.Yaml
