import RegionGrid.Layout.Adaptive

/-!
# What can be wrong with a layout definition
-/

namespace RegionGrid

inductive Axis where
  | columns
  | rows
  deriving DecidableEq, Repr

def Axis.key : Axis → String
  | columns => "columns"
  | rows => "rows"

inductive DefinitionError where
  | notMapping
  | breakpointsNotMapping
  | unknownBreakpoints (keys : List Value)
  | breakpointNotNumber (key v : Value)
  | breakpointTooLarge
  | breakpointsDescend (compact medium expanded : Float)
  | noLayouts (name : Value)
  | layoutsNotMapping (name : Value)
  | unknownSizeClass (key name : Value)
  | templateMissing (size : SizeClass)
  | templateNotRows (size : SizeClass)
  | tracksNotList (size : SizeClass) (axis : Axis) (v : Value)
  | track (e : TrackError)
  | template (e : TemplateError)

namespace DefinitionError

/-- The values that the words for the error show. -/
def shown : DefinitionError → List Value
  | unknownBreakpoints keys => keys
  | breakpointNotNumber key v => [key, v]
  | noLayouts name | layoutsNotMapping name => [name]
  | unknownSizeClass key name => [key, name]
  | tracksNotList _ _ v => [v]
  | track e => e.shown
  | _ => []

def words : DefinitionError → String
  | notMapping => "Layout definition must be a mapping"
  | breakpointsNotMapping => "'breakpoints' must be a mapping of size class to width"
  | unknownBreakpoints keys =>
    let sorted := (keys.map Value.text).mergeSort fun a b =>
      !(codePoints b).lex (codePoints a) Nat.blt
    "Unknown breakpoints: " ++ ", ".intercalate sorted
  | breakpointNotNumber key v => s!"Breakpoint '{key.text}' must be a number, got {v.literal}"
  | breakpointTooLarge => Binary64.tooLargeMessage
  | breakpointsDescend compact medium expanded =>
    Breakpoints.descendingMessage compact medium expanded
  | noLayouts name => s!"Layout '{name.text}' defines no layouts"
  | layoutsNotMapping name => s!"'layouts' in layout '{name.text}' must be a mapping of size classes"
  | unknownSizeClass key name => s!"Unknown size class '{key.text}' in layout '{name.text}'"
  | templateMissing size => s!"Layout for '{size.name}' must specify 'template'"
  | templateNotRows size => s!"'template' for '{size.name}' must be a list of row strings"
  | tracksNotList size axis v =>
    s!"'{axis.key}' for '{size.name}' must be a list of track sizes, got {v.literal}"
  | track e => e.words
  | template e => e.message

/-- The error in words, where so many values may stand in one another, or what is in their way. -/
def message (room : Nat) (e : DefinitionError) : Except Value.Obstacle String :=
  Value.message room e.shown e.words

/-- Whether the error is a number that no double is near to; other errors are malformed values. -/
def isOverflow : DefinitionError → Bool
  | breakpointTooLarge => true
  | track .tooLarge => true
  | _ => false

end DefinitionError

end RegionGrid
