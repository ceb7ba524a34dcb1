import RegionGrid.Bundled
import RegionGrid.Number.Numeral

/-!
# Command-line options

Reads the arguments of the program. An option has a short spelling, a long one, or both; a long one
may be cut off where it is still the only one. A value stands in the next argument or is attached: to
a long spelling with an equals sign, to a short one with or without. What is attached to a short flag
is the letters of more options. There are no other arguments, so whatever is not an option or the
value of one is refused.
-/

namespace RegionGrid

/-! ### Container sizes -/

inductive SizeError where
  | malformed (text : String)
  | negative (text : String)
  deriving DecidableEq, Repr

def SizeError.message : SizeError → String
  | malformed text => s!"Invalid size '{text}', expected WxH"
  | negative text => s!"Invalid size '{text}', must not be negative"

/-- The width and height in a text: two whole numbers with an `x` between them. -/
def sizeOfText (text : String) : Except SizeError (Nat × Nat) :=
  match (text.toList.map Char.toLower).splitOnP (· == 'x') with
  | [widthText, heightText] =>
    match shortWholeNumber? widthText, shortWholeNumber? heightText with
    | some width, some height =>
      if width < 0 ∨ height < 0 then .error (.negative text) else .ok (width.toNat, height.toNat)
    | _, _ => .error (.malformed text)
  | _ => .error (.malformed text)

/-! ### Arguments -/

inductive Switch where
  | layout
  | file
  | size
  | render
  | verbose
  | logFile
  | only
  deriving DecidableEq, Repr

namespace Switch

def spellings : List (List Char × Switch) :=
  [("-l", layout), ("--layout", layout), ("-f", file), ("--file", file), ("--size", size),
   ("-r", render), ("--render", render), ("-v", verbose), ("--verbose", verbose),
   ("--log-file", logFile), ("--only", only)].map fun (spelling, switch) => (spelling.toList, switch)

def ofSpelling? (spelling : List Char) : Option Switch := spellings.lookup spelling

/-- The options with a spelling that starts like this. -/
def ofStart (start : List Char) : List Switch :=
  (spellings.filter fun (spelling, _) => start.isPrefixOf spelling).map (·.2)

/-- Whether the option comes with a value; the others are flags. -/
def takesValue (switch : Switch) : Bool := switch ≠ .verbose

end Switch

/-- What the arguments ask for. -/
structure Options where
  layout : Bundled := .holyGrail
  file : Option String := none
  size : Nat × Nat := (1280, 800)
  render : Option String := none
  verbose : Bool := false
  logFile : Option String := none
  only : Option String := none
  /-- The options that have no value, because two hyphens stand in its place. -/
  withoutValue : List Switch := []
  deriving DecidableEq, Repr

/-- An argument once it is known whether it is an option. -/
inductive Argument where
  | plain (text : String)
  | option (switch : Switch) (attached : Option String)
  /-- It looks like an option and is none. -/
  | stray
  /-- An option with an attached text that it does not take. -/
  | misspelled
  deriving DecidableEq, Repr

namespace Argument

/-- A long spelling with what an equals sign attaches to it, if there is one. -/
def ofLong (switch : Switch) : Option (List Char) → Argument
  | none => option switch none
  | some value => if switch.takesValue then option switch (some (String.ofList value)) else misspelled

/--
A short spelling with the text attached to it: a value or, if the option takes none, the letters of
more options, of which the last one may have a value after it.
-/
def ofShort (switch : Switch) : List Char → List Argument
  | [] => if switch.takesValue then [option switch (some "")] else [misspelled]
  | c :: rest =>
    if switch.takesValue then [option switch (some (String.ofList (c :: rest)))]
    else
      match Switch.ofSpelling? ['-', c] with
      | some next =>
        option switch none :: (if rest.isEmpty then [option next none] else ofShort next rest)
      | none => [misspelled]

/-- Splits at the first equals sign. -/
def splitAssignment (s : List Char) : List Char × Option (List Char) :=
  let (spelling, rest) := s.span (· ≠ '=')
  match rest with
  | _ :: value => (spelling, some value)
  | [] => (spelling, none)

/-- A negative number, which is a value even though it starts like an option. -/
def isNegativeNumber (s : List Char) : Bool :=
  match Chars.withoutFinalBreak s with
  | '-' :: size =>
    let (whole, rest) := size.span isDecimalDigit
    match rest with
    | [] => !whole.isEmpty
    | '.' :: fraction => !fraction.isEmpty && fraction.all isDecimalDigit
    | _ => false
  | _ => false

/-- What starts with a hyphen and is the spelling of no option; with a space in it, it is a value. -/
def ofUnknown (text : String) : Argument :=
  if isNegativeNumber text.toList || text.toList.contains ' ' then plain text else stray

/-- The arguments that one text stands for; none if a long spelling is cut off too early. -/
def ofText? (text : String) : Option (List Argument) :=
  let s := text.toList
  let (spelling, attached) := splitAssignment s
  match s with
  | '-' :: '-' :: _ =>
    match Switch.ofSpelling? spelling with
    | some switch => some [ofLong switch attached]
    | none =>
      match Switch.ofStart spelling with
      | [switch] => some [ofLong switch attached]
      | [] => some [ofUnknown text]
      | _ => none
  | '-' :: c :: more =>
    match Switch.ofSpelling? ['-', c] with
    | some switch =>
      match more with
      | [] => some [option switch none]
      | '=' :: value => some (ofShort switch value)
      | _ => some (ofShort switch more)
    | none => some [ofUnknown text]
  | _ => some [plain text]

/-- The arguments that texts stand for. After two hyphens there are no options. -/
def ofTexts? : List String → Option (List Argument)
  | [] => some []
  | text :: rest =>
    if text = "--" then some (stray :: rest.map plain)
    else do return (← ofText? text) ++ (← ofTexts? rest)

end Argument

namespace Options

/-- The options read so far, which sources of a layout were named, and whether anything is left. -/
structure Reading where
  options : Options := {}
  layoutNamed : Bool := false
  fileNamed : Bool := false
  leftOver : Bool := false

/-- Names a source of a layout; none if the other one was named before. -/
def Reading.named? (r : Reading) : Switch → Option Reading
  | .layout => if r.fileNamed then none else some { r with layoutNamed := true }
  | .file => if r.layoutNamed then none else some { r with fileNamed := true }
  | _ => some r

/-- The options with another value for one of them; none if that does not take it. -/
def setText? (o : Options) (switch : Switch) (value : String) : Option Options :=
  match switch with
  | .layout => (Bundled.ofName? value).map fun layout => { o with layout }
  | .file => some { o with file := some value }
  | .size => (sizeOfText value).toOption.map fun size => { o with size }
  | .render => some { o with render := some value }
  | .verbose => none
  | .logFile => some { o with logFile := some value }
  | .only => some { o with only := some value }

def clear (o : Options) (switch : Switch) : Options :=
  let o := { o with withoutValue := switch :: o.withoutValue }
  match switch with
  | .file => { o with file := none }
  | .render => { o with render := none }
  | .logFile => { o with logFile := none }
  | .only => { o with only := none }
  | .layout | .size | .verbose => o

/-- Sets an option to a value; none if the option does not take it. Two hyphens are no value. -/
def Reading.set? (r : Reading) (switch : Switch) (value : String) : Option Reading := do
  let r ← r.named? switch
  let o := { r.options with withoutValue := r.options.withoutValue.filter (· ≠ switch) }
  let options ← if value = "--" then some (o.clear switch) else o.setText? switch value
  return { r with options }

def read (r : Reading) : List Argument → Option Reading
  | [] => if r.leftOver then none else some r
  | .option .verbose none :: rest =>
    read { r with options := { r.options with verbose := true } } rest
  | .option switch (some value) :: rest => do read (← r.set? switch value) rest
  | .option switch none :: .plain value :: rest => do read (← r.set? switch value) rest
  | .option _ none :: _ | .misspelled :: _ => none
  | .plain _ :: rest | .stray :: rest => read { r with leftOver := true } rest

/-- The options that the arguments of the program give; none if the program refuses them. -/
def ofArguments? (arguments : List String) : Option Options := do
  return (← read {} (← Argument.ofTexts? arguments)).options

end Options

end RegionGrid
