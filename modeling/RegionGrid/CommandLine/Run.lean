import RegionGrid.CommandLine.Options
import RegionGrid.CommandLine.Report
import RegionGrid.Image.File
import RegionGrid.Image.Library
import RegionGrid.Loader
import RegionGrid.Yaml.Load

/-!
# Running the program

What the program does with its arguments and the files it sees, as a value: the lines it prints, its
log, the picture it draws and how it ends. It loads a layout, places its regions in a container of
whole width and height, lists them, and draws them if it is asked to.

A layout that cannot be loaded is reported in the log. Some failures are not: those of a number that
no double is near to, those of a scalar whose tag announces a truth value or digits in vain, those of
writing a file, of a line that cannot be printed or a name that cannot be shown or drawn, and those of a
missing layout or size. They stop the program where they happen. A record of the log that cannot be
written is left out, unless it is a value in it that is nested too deeply: this stops the program too.
-/

namespace RegionGrid

inductive Failure where
  /-- The option for the bundled layout has no value. -/
  | noLayout
  /-- The option for the size of the container has no value. -/
  | noSize
  | file (e : FileError)
  | tooLarge
  | yaml (fault : Yaml.Fault)
  /-- A number in the name of the layout has too many digits. -/
  | unwritableName
  /-- A value that is to be shown is nested too deeply. -/
  | tooDeep
  /-- A line cannot be printed. -/
  | unprintable (line : String)
  | picture (e : PictureError)

def Failure.message : Failure → String
  | noLayout => "unhashable type: 'list'"
  | noSize => "not enough values to unpack (expected 2, got 0)"
  | file e => e.message
  | tooLarge => Binary64.tooLargeMessage
  | yaml fault => fault.message
  | unwritableName => Value.Obstacle.tooManyDigits.message
  | tooDeep => Value.Obstacle.tooDeep.message
  | unprintable line => unencodableMessage line
  | picture e => e.message

inductive Ending where
  | exit (code : Nat)
  | failed (failure : Failure)

/-- Where the program shows a value that a definition holds. -/
inductive Saying where
  | error (e : DefinitionError)
  /-- A layout was read. -/
  | loaded
  /-- A layout has no template for its container. -/
  | missing
  | heading

/-- How many values may stand in one another where nothing else is said: about a thousand. -/
def usualRoom : Nat := 980

/-- What the program finds when it starts. -/
structure Environment where
  tree : FileTree := {}
  workingDirectory : Path := []
  /-- How the directory of the bundled definitions is shown. -/
  assets : String := "assets"
  reader : Yaml.Reader := Yaml.reader Definition.depth
  /-- How many values may stand in one another where one is shown. -/
  room : Saying → Nat := fun _ => usualRoom
  /-- Whether a line can be printed. -/
  prints : String → Bool := isEncodable
  library : PictureLibrary := {}

/-- What the program has done so far. -/
structure Output where
  /-- Records below this level are left out. -/
  least : Level := .info
  printed : List String := []
  log : List Record := []
  /-- The file that the log is also written to. -/
  logFile : Option Path := none
  picture : Option (Path × PictureFormat × Picture) := none

namespace Output

def stdout (o : Output) : String := String.join (o.printed.map (· ++ "\n"))

/-- The text of the log file, which has no records that cannot be written in UTF-8. -/
def logText (o : Output) : String := String.join ((o.log.map Record.fileLine).filter isEncodable)

end Output

/-- A part of the program: it adds to the output, and may fail. -/
abbrev Action (β : Type) := ExceptT Failure (StateM Output) β

namespace CommandLine

/-- Adds those records to the log that reach its level. -/
def record (records : List Record) : Action Unit :=
  modify fun o => { o with log := o.log ++ records.filter (·.level.reaches o.least) }

/--
Adds records that show a value. A number with too many digits in it keeps them from being written; what
is nested too deeply stops the program.
-/
def recordShowing (room : Nat) (v : Value) (records : List Record) : Action Unit :=
  match v.obstacle? room with
  | none => record records
  | some .tooManyDigits => return
  | some .tooDeep => throw .tooDeep

/-- Prints lines up to the first one that cannot be printed. -/
def print (prints : String → Bool) : List String → Action Unit
  | [] => return
  | line :: rest => do
    unless prints line do throw (.unprintable line)
    modify fun o => { o with printed := o.printed ++ [line] }
    print prints rest

/-- A layout that cannot be loaded is reported with a reason, or stops the program. -/
def loadFailure (room : Saying → Nat) : LoadError → Except Failure String
  | .file e => .ok e.message
  | .yaml fault => if fault.isReported then .ok fault.message else .error (.yaml fault)
  | .definition e =>
    if e.isOverflow then .error .tooLarge
    else match e.message (room (.error e)) with
      | .ok message => .ok message
      | .error .tooManyDigits => .ok Value.Obstacle.tooManyDigits.message
      | .error .tooDeep => .error .tooDeep

/-- Reads a layout from its definition and tells what is compiled on the way, and what was read. -/
def readLayout (env : Environment) (definition defaultName : Value) :
    Action (Except LoadError (AdaptiveLayout Float)) := do
  let plans := (Definition.compiledPlans definition defaultName).filter (!·.isEmpty)
  record (plans.map .compiled)
  match Definition.layout definition defaultName with
  | .error e => return .error (.definition e)
  | .ok layout =>
    let told := Record.loadedLayout layout.name (layout.templates.map (·.1))
    if told.level.reaches (← get).least then recordShowing (env.room .loaded) layout.name [told]
    return .ok layout

/-- Loads the layout that the options ask for. An empty file name asks for none. -/
def loadLayout (env : Environment) (tree : FileTree) (options : Options) :
    Action (Except LoadError (AdaptiveLayout Float)) := do
  match options.file.filter (· ≠ "") with
  | none =>
    record [.loadingLayout s!"{env.assets}/layouts/{options.layout.name}.yaml"]
    readLayout env options.layout.definition (.string options.layout.name)
  | some spelling =>
    match Path.ofSpelling env.workingDirectory spelling with
    | .error e => return .error (.file e)
    | .ok path =>
      record [.loadingLayout (path.text env.workingDirectory)]
      match definitionOfFile env.reader tree path with
      | .error e => return .error e
      | .ok definition => readLayout env definition (.string path.stem)

def extent (n : Nat) : Action Float :=
  match Binary64.ofInt? n with
  | some x => pure x
  | none => throw .tooLarge

/-- The sizes of the tracks of one axis; an axis without tracks needs no extent. -/
def resolveAxis (specs : List (TrackSize Float)) (whole count : Nat) : Action (List Float) := do
  if count = 0 then return []
  let x ← extent whole
  let sizes := resolve specs x count
  record [.resolved x sizes]
  return sizes

/--
The rectangles of the regions that are asked for. Whole widths are told apart exactly, even where
doubles cannot. That there is no template is worth a warning, if the width can be written in it.
-/
def place (room : Nat) (layout : AdaptiveLayout Float) (width height : Nat)
    (names : Option (List String)) : Action (List (String × Rect Float)) := do
  if width = 0 ∨ height = 0 then return []
  let size := layout.breakpoints.sizeForWhole width
  match layout.template? size with
  | none =>
    let warning? := (Binary64.ofInt? width).map (Record.noTemplate layout.name size)
    recordShowing room layout.name warning?.toList
    return []
  | some template =>
    let columnSizes ← resolveAxis template.columnSizes width template.plan.columnCount
    let rowSizes ← resolveAxis template.rowSizes height template.plan.rowCount
    return placeCells template.plan columnSizes rowSizes names

/-- What fails may stop the program. -/
def orStop {ε β : Type} (failure : ε → Failure) (e : Except ε β) : Action β :=
  match e with
  | .ok x => pure x
  | .error e => throw (failure e)

/-- Writes a picture to a file in the format that its extension asks for. -/
def writePicture (env : Environment) (tree : FileTree) (shown : String) (picture : Picture) :
    Action Unit := do
  let extension := Path.lowerExtension shown
  let some format := env.library.format? extension | throw (.picture (.unknownExtension extension))
  unless format.isWritable do throw (.picture (.onlyRead format.name))
  let path ← orStop .file (tree.locate env.workingDirectory shown)
  let _ ← orStop .file (tree.write path [])
  if let some e := env.library.obstacle? format picture then throw (.picture e)
  modify fun o => { o with picture := some (path, format, picture) }
  record [.savedRender shown]

def render (env : Environment) (tree : FileTree) (spelling : String) (width height : Nat)
    (rects : List (String × Rect Float)) : Action Unit := do
  let shown := Path.tidied spelling
  let style := DrawingStyle.standard
  record [.rendering shown width height]
  let boxes ← orStop .picture (Picture.ofRects pixelCoordinate style width height rects)
  unless env.library.hasMemory width height do throw (.picture .noMemory)
  let labels ← orStop .picture (Picture.labelsOf env.library.font style.gap rects)
  writePicture env tree shown { boxes with labels }

/-- The name of a layout can be shown, or the program stops. -/
def checkName (room : Nat) (name : Value) : Action Unit :=
  match name.obstacle? room with
  | none => return
  | some .tooManyDigits => throw .unwritableName
  | some .tooDeep => throw .tooDeep

def present (env : Environment) (tree : FileTree) (options : Options)
    (layout : AdaptiveLayout Float) : Action Unit := do
  let (width, height) := options.size
  let names := (options.only.filter (· ≠ "")).map wantedNames
  let rects ← place (env.room .missing) layout width height names
  let size := layout.breakpoints.sizeForWhole width
  checkName (env.room .heading) layout.name
  let lines := rects.map fun (name, rect) => Report.regionLine name rect
  print env.prints (Report.heading layout.name width height size :: Report.rule :: lines)
  match options.render.filter (· ≠ "") with
  | none => return
  | some spelling => render env tree spelling width height rects

/-- Opens the log, which empties the log file. The files are those that are there afterwards. -/
def openLog (env : Environment) (options : Options) : Action FileTree := do
  let spelling? := options.logFile.filter (· ≠ "")
  let path? ← orStop .file (spelling?.mapM (Path.ofWholeSpelling env.workingDirectory))
  let tree ← orStop .file (path?.elim (.ok env.tree) (env.tree.write · []))
  modify fun o => { o with least := if options.verbose then .debug else .info, logFile := path? }
  record [.loggingTo spelling?]
  return tree

/-- Does what the options ask for, and gives the exit code. -/
def perform (env : Environment) (options : Options) : Action Nat := do
  let tree ← openLog env options
  if options.withoutValue.contains .layout then throw .noLayout
  match ← loadLayout env tree options with
  | .ok layout =>
    if options.withoutValue.contains .size then throw .noSize
    present env tree options layout
    return 0
  | .error e =>
    let reason ← orStop id (loadFailure env.room e)
    record [.loadFailed reason]
    return 1

def runOptions (env : Environment) (options : Options) : Ending × Output :=
  match (perform env options).run {} with
  | (.ok code, output) => (.exit code, output)
  | (.error failure, output) => (.failed failure, output)

/-- Runs the program: how it ends, and what it has done. Refused arguments end it at once. -/
def run (env : Environment) (arguments : List String) : Ending × Output :=
  match Options.ofArguments? arguments with
  | none => (.exit 2, {})
  | some options => runOptions env options

end CommandLine

end RegionGrid
