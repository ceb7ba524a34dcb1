import RegionGrid.Definition.Error

/-!
# Layout definitions

Reads an adaptive layout from a value, as a YAML document gives it:

* `name`, any value, with a default;
* `breakpoints`, a mapping with any of `compact`, `medium` and `expanded`, each a width;
* `layouts`, a mapping from size classes to entries, at least one. An entry has a `template`, which is
  a list of rows or a text with one row a line, and may have lists of `columns` and `rows` sizes.

The definition is checked in this order, the entries one after the other, and the first error is the
answer. An entry is read on its own: what it gives depends on no other entry.
-/

namespace RegionGrid.Definition

/--
How many collections lead from a definition to the innermost values that are looked at or shown: its
layouts, an entry of them, a list of track sizes and a size in it.
-/
def depth : Nat := 4

/-- The widths at which size classes end, as read so far. -/
structure Thresholds where
  compact : Float := Breakpoints.default.compact
  medium : Float := Breakpoints.default.medium
  expanded : Float := Breakpoints.default.expanded

/-- Sets one threshold; `none` for a key that is not one. -/
def Thresholds.set? (t : Thresholds) (key : Value) (width : Float) : Option Thresholds :=
  match key with
  | .string "compact" => some { t with compact := width }
  | .string "medium" => some { t with medium := width }
  | .string "expanded" => some { t with expanded := width }
  | _ => none

def isThreshold : Value → Bool
  | .string s => s == "compact" || s == "medium" || s == "expanded"
  | _ => false

/-- Reads the widths of a mapping whose keys are thresholds. -/
def readThresholds (t : Thresholds) :
    List (Value × Value) → Except DefinitionError Thresholds
  | [] => .ok t
  | (key, v) :: rest =>
    match v.toNumber with
    | .error .notNumber => .error (.breakpointNotNumber key v)
    | .error .tooLarge => .error .breakpointTooLarge
    | .ok width => readThresholds ((t.set? key width).getD t) rest

def breakpoints : Value → Except DefinitionError (Breakpoints Float)
  | .null => .ok .default
  | .mapping entries _ => do
    let unknown := (entries.map (·.1)).filter fun key => !isThreshold key
    if unknown ≠ [] then throw (.unknownBreakpoints unknown)
    let t ← readThresholds {} entries
    match Breakpoints.ofThresholds? t.compact t.medium t.expanded with
    | some b => return b
    | none => throw (.breakpointsDescend t.compact t.medium t.expanded)
  | _ => .error .breakpointsNotMapping

/-- The strings of a list that holds nothing else. -/
def strings? (items : List Value) : Option (List String) :=
  items.mapM fun
    | .string s => some s
    | _ => none

/-- The rows of a template: a list of strings, or the lines of a text that are not blank. -/
def rows? : Value → Option (List String)
  | .string s => some ((lines s).filter hasInk)
  | .list items _ => strings? items
  | _ => none

def tracks (size : SizeClass) (axis : Axis) (v : Value) :
    Except DefinitionError (List (TrackSize Float)) :=
  match v with
  | .null | .list _ _ => (TrackSize.listOfValue v).mapError .track
  | _ => .error (.tracksNotList size axis v)

def gridTemplate (size : SizeClass) (entry : Value) :
    Except DefinitionError (GridTemplate Float) := do
  let .mapping fields _ := entry | throw (.templateMissing size)
  let some template := Value.field? fields "template" | throw (.templateMissing size)
  let some rows := rows? template | throw (.templateNotRows size)
  let columnSizes ← tracks size .columns (Value.field fields "columns")
  let rowSizes ← tracks size .rows (Value.field fields "rows")
  (GridTemplate.ofRows size rows columnSizes rowSizes).mapError .template

/-- One entry of the layouts of a definition with the given name. -/
def entry (name key v : Value) : Except DefinitionError (SizeClass × GridTemplate Float) := do
  let size? := match key with
    | .string s => SizeClass.ofName? s
    | _ => none
  let some size := size? | throw (.unknownSizeClass key name)
  let template ← gridTemplate size v
  return (size, template)

/-- A definition whose entries have not been read. -/
structure Outline where
  name : Value
  breakpoints : Breakpoints Float
  entries : List (Value × Value)

/-- Reads a definition up to its entries. -/
def outline (definition defaultName : Value) : Except DefinitionError Outline := do
  let .mapping fields _ := definition | throw .notMapping
  let name := (Value.field? fields "name").getD defaultName
  let breakpoints ← breakpoints (Value.field fields "breakpoints")
  let layouts := Value.field fields "layouts"
  if !layouts.isPresent then throw (.noLayouts name)
  let .mapping entries _ := layouts | throw (.layoutsNotMapping name)
  return ⟨name, breakpoints, entries⟩

/-- The results of reading the entries, each on its own. -/
def Outline.results (o : Outline) : List (Except DefinitionError (SizeClass × GridTemplate Float)) :=
  o.entries.map fun (key, v) => entry o.name key v

/-- The layout of a definition, which has the default name if it does not give one. -/
def layout (definition defaultName : Value) : Except DefinitionError (AdaptiveLayout Float) := do
  let o ← outline definition defaultName
  let templates ← o.entries.mapM fun (key, v) => entry o.name key v
  return ⟨o.name, o.breakpoints, templates⟩

/-- The values of a list before its first error. -/
def untilError {ε β : Type} : List (Except ε β) → List β
  | .ok x :: rest => x :: untilError rest
  | _ => []

/-- The plans that are compiled while a definition is read, up to its first error. -/
def compiledPlans (definition defaultName : Value) : List Plan :=
  match outline definition defaultName with
  | .error _ => []
  | .ok o => (untilError o.results).map (·.2.plan)

end RegionGrid.Definition
