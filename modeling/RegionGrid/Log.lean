import RegionGrid.Layout.Adaptive

/-!
# Log records

What the program says about its work while it does it. A record names the part that speaks, how
important it is, and the message; records below the level that is asked for are left out.
-/

namespace RegionGrid

/-- How important a record is, the least important first. -/
inductive Level where
  | debug
  | info
  | warning
  | error
  deriving DecidableEq, Repr

namespace Level

def name : Level → String
  | debug => "DEBUG"
  | info => "INFO"
  | warning => "WARNING"
  | error => "ERROR"

private def rank : Level → Nat
  | debug => 0
  | info => 1
  | warning => 2
  | error => 3

/-- Whether a record of this level is kept where a least level is asked for. -/
def reaches (level least : Level) : Bool := least.rank ≤ level.rank

theorem debug_reaches_iff {least : Level} : debug.reaches least = true ↔ least = debug := by
  cases least <;> decide

end Level

/-- One statement about the work of the program. -/
structure Record where
  source : String
  level : Level
  message : String
  deriving DecidableEq, Repr

namespace Record

private def program : String := "gridtemplate"

def text (r : Record) : String := s!"{r.source} {r.level.name} {r.message}"

/-- The record as it stands in a log file, after the time. -/
def fileLine (r : Record) : String := s!"{r.source} - {r.level.name} - {r.message}\n"

/-- Records are written from now on, and also to a file if one is named. -/
def loggingTo (file? : Option String) : Record :=
  ⟨program, .debug, "Logging to stderr" ++ file?.elim "" fun file => s!" and {file}"⟩

/-- A definition is read from a file. -/
def loadingLayout (path : String) : Record :=
  ⟨program ++ ".layout.loader", .debug, s!"Loading layout from {path}"⟩

/-- A template that has rows was compiled. -/
def compiled (plan : Plan) : Record :=
  ⟨program ++ ".layout.compiler", .debug,
    s!"Compiled {plan.rowCount}x{plan.columnCount} template with {plan.cells.length} regions"⟩

/-- A definition was read. -/
def loadedLayout (name : Value) (sizes : List SizeClass) : Record :=
  ⟨program ++ ".layout.loader", .debug,
    s!"Loaded layout '{name.text}' with size classes: " ++
      ", ".intercalate (sizes.map SizeClass.name)⟩

/-- No layout could be loaded. -/
def loadFailed (reason : String) : Record :=
  ⟨program, .error, s!"Could not load layout: {reason}"⟩

/-- The tracks of an axis got their sizes. -/
def resolved (extent : Float) (sizes : List Float) : Record :=
  ⟨program ++ ".layout.solver", .debug,
    s!"Resolved {sizes.length} tracks over {roundedText extent}: " ++
      "[" ++ ", ".intercalate (sizes.map shortestText) ++ "]"⟩

/-- A layout has no template for the width of its container. -/
def noTemplate (name : Value) (size : SizeClass) (width : Float) : Record :=
  ⟨program ++ ".layout.adaptive", .warning,
    s!"No template in '{name.text}' for size class {size.name} (width {roundedText width})"⟩

/-- A picture is drawn for a file. -/
def rendering (path : String) (width height : Nat) : Record :=
  ⟨program, .info, s!"Rendering to {path} ({width}x{height})"⟩

/-- A picture was written to a file. -/
def savedRender (path : String) : Record :=
  ⟨program, .info, s!"Saved render to {path}"⟩

end Record

/-- The record that placing a layout leaves: a warning if there is no template for the width. -/
def Placed.records (placed : Placed Float) (name : Value) (width : Float) : List Record :=
  (placed.missing.map fun size => Record.noTemplate name size width).toList

end RegionGrid
