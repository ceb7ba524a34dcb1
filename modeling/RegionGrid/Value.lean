import RegionGrid.Assoc
import RegionGrid.Calendar
import RegionGrid.Text.Quoted
import RegionGrid.Track

/-!
# Values

The values that a layout definition is made of: what a YAML document holds, and track sizes that were
built before. A value has two texts. Its *literal* shows what it is, strings in quotes; its *text* is
the string itself for a string, a size as it is written for a track size, a date or a time without
its parts named, and the literal for the rest. Not every value has a literal: a whole number in it may
have too many digits, and the values that stand in one another may be too many.

A document can hold a collection that holds itself. As a value, such a collection is unrolled as far
as anyone looks into it, and it bears a label; its literal is cut off where the label comes again.
-/

namespace RegionGrid

/-- What tells a collection that holds itself from others: a number, and one for each of its parts. -/
abbrev Label := Nat × Nat

/-- A value of a layout definition. The keys of a mapping are distinct, see `Value.sameKey`. -/
inductive Value where
  | null
  | bool (b : Bool)
  | int (n : Int)
  | float (x : Float)
  | string (s : String)
  | bytes (data : List UInt8)
  | date (d : Date)
  | moment (m : Moment)
  | list (items : List Value) (label? : Option Label := none)
  | pair (first second : Value) (label? : Option Label := none)
  | mapping (entries : List (Value × Value)) (label? : Option Label := none)
  /-- A set of values that can be keys. -/
  | set (members : List Value)
  | track (size : TrackSize Float)
  deriving Inhabited

namespace Value

private def trackLiteral : TrackSize Float → String
  | .fixed pixels => s!"Fixed(pixels={shortestText pixels})"
  | .flex factor => s!"Flex(factor={shortestText factor})"
  | .content => "Content()"

private def between (start stop : String) (parts : List String) : String :=
  start ++ ", ".intercalate parts ++ stop

mutual

/-- The text that shows what a value is, as a part of the collections with the given labels. -/
def literalWithin (above : List Label) : Value → String
  | null => "None"
  | bool b => if b then "True" else "False"
  | int n => toString n
  | float x => shortestText x
  | string s => quoted s
  | bytes data => quotedBytes data
  | date d => d.literal
  | moment m => m.literal
  | list items label? =>
    if label?.any above.contains then "[...]"
    else between "[" "]" (literalsWithin (label?.toList ++ above) items)
  | pair first second label? =>
    if label?.any above.contains then "(...)"
    else
      let above := label?.toList ++ above
      between "(" ")" [first.literalWithin above, second.literalWithin above]
  | mapping entries label? =>
    if label?.any above.contains then "\x7b...\x7d"
    else between "\x7b" "\x7d" (entryLiteralsWithin (label?.toList ++ above) entries)
  | set [] => "set()"
  | set members => between "\x7b" "\x7d" (literalsWithin above members)
  | track size => trackLiteral size

private def literalsWithin (above : List Label) : List Value → List String
  | [] => []
  | v :: rest => v.literalWithin above :: literalsWithin above rest

private def entryLiteralsWithin (above : List Label) : List (Value × Value) → List String
  | [] => []
  | (key, v) :: rest =>
    (key.literalWithin above ++ ": " ++ v.literalWithin above) :: entryLiteralsWithin above rest

end

def literal (v : Value) : String := v.literalWithin []

/-- The text that a value stands for in a sentence. -/
def text : Value → String
  | string s => s
  | date d => d.text
  | moment m => m.text
  | track size => size.text
  | v => v.literal

/-- What keeps a value from having a literal. -/
inductive Obstacle where
  /-- There is a whole number with too many digits. -/
  | tooManyDigits
  /-- More values stand in one another than there is room for. -/
  | tooDeep
  deriving DecidableEq, Repr

namespace Obstacle

def message : Obstacle → String
  | tooManyDigits => unwritableMessage
  | tooDeep => "maximum recursion depth exceeded while getting the repr of an object"

/-- What is in the way of something that takes a number of levels, and after these of what is inside. -/
def below (levels : Nat) (inside : Nat → Option Obstacle) (room : Nat) : Option Obstacle :=
  if room < levels then some tooDeep else inside (room - levels)

end Obstacle

/-- How many values stand in one another where a time is shown: itself, its zone and the span of that. -/
def momentLevels (m : Moment) : Nat :=
  m.offset?.elim 1 fun offset => if offset = 0 then 2 else 3

/-- How many values stand in one another where a track size is shown; its parts have names. -/
def trackLevels : TrackSize Float → Nat
  | .fixed _ | .flex _ => 4
  | .content => 3

mutual

/--
The first thing in the way of the literal of a value, as a part of the collections with the given
labels, where so many values may stand in one another.
-/
def obstacleWithin (above : List Label) (room : Nat) : Value → Option Obstacle
  | null | bool _ | float _ | string _ | bytes _ | date _ => Obstacle.below 1 (fun _ => none) room
  | int n => Obstacle.below 1 (fun _ => if isWritable n then none else some .tooManyDigits) room
  | moment m => Obstacle.below (momentLevels m) (fun _ => none) room
  | list items label? =>
    Obstacle.below 1 (fun room =>
      if label?.any above.contains then none
      else obstaclesWithin (label?.toList ++ above) room items) room
  | pair first second label? =>
    Obstacle.below 1 (fun room =>
      if label?.any above.contains then none
      else
        let above := label?.toList ++ above
        (first.obstacleWithin above room).or (second.obstacleWithin above room)) room
  | mapping entries label? =>
    Obstacle.below 1 (fun room =>
      if label?.any above.contains then none
      else entryObstaclesWithin (label?.toList ++ above) room entries) room
  | set [] => Obstacle.below 1 (fun _ => none) room
  -- The members of a set are shown as a list.
  | set members => Obstacle.below 2 (fun room => obstaclesWithin above room members) room
  | track size => Obstacle.below (trackLevels size) (fun _ => none) room

def obstaclesWithin (above : List Label) (room : Nat) : List Value → Option Obstacle
  | [] => none
  | v :: rest => (v.obstacleWithin above room).or (obstaclesWithin above room rest)

def entryObstaclesWithin (above : List Label) (room : Nat) :
    List (Value × Value) → Option Obstacle
  | [] => none
  | (key, v) :: rest =>
    ((key.obstacleWithin above room).or (v.obstacleWithin above room)).or
      (entryObstaclesWithin above room rest)

end

/-- The first thing in the way of showing a value where so many values may stand in one another. -/
def obstacle? (room : Nat) : Value → Option Obstacle
  | string _ => none
  | v => v.obstacleWithin [] room

/-- A message that shows values, or the first thing in the way of showing them. -/
def message (room : Nat) (shown : List Value) (text : String) : Except Obstacle String :=
  (shown.findSome? (obstacle? room)).elim (.ok text) .error

/-- Whether a value says that there is something: zero and what is empty say that there is not. -/
def isPresent : Value → Bool
  | null => false
  | bool b => b
  | int n => n != 0
  | float x => x != 0
  | string s => s != ""
  | bytes data => !data.isEmpty
  | list items _ => !items.isEmpty
  | mapping entries _ => !entries.isEmpty
  | set members => !members.isEmpty
  | date _ | moment _ | pair _ _ _ | track _ => true

/-- The whole number that a value equals, if there is one. -/
def asWholeNumber? : Value → Option Int
  | bool b => some (if b then 1 else 0)
  | int n => some n
  | float x =>
    match Binary64.ofFloat x with
    | .finite negative mantissa exponent =>
      if mantissa <<< exponent.toNat % 1 <<< (-exponent).toNat = 0 then
        let size : Nat := mantissa <<< exponent.toNat >>> (-exponent).toNat
        some (if negative then -size else size)
      else none
    | _ => none
  | _ => none

/--
Whether two scalars are the same key of a mapping. Numbers are compared by the number they stand for,
and truth values are the numbers one and zero. What is no number is the same key as nothing else.
-/
def sameKey (a b : Value) : Bool :=
  match a, b with
  | null, null => true
  | string s, string t => s == t
  | bytes s, bytes t => s == t
  | date d, date e => d == e
  | moment m, moment n => m.same n
  | track s, track t => s == t
  | float x, float y => x == y
  | a, b =>
    match asWholeNumber? a, asWholeNumber? b with
    | some m, some n => m == n
    | _, _ => false

/-- The entries of a mapping from pairs of keys and values. -/
def entriesOf (pairs : List (Value × Value)) : List (Value × Value) :=
  letI : BEq Value := ⟨sameKey⟩
  Assoc.ofList pairs

/-- The value that a mapping's entries hold for a string. -/
def field? (entries : List (Value × Value)) (key : String) : Option Value :=
  entries.findSome? fun
    | (string k, v) => if k = key then some v else none
    | _ => none

/-- The value that a mapping's entries hold for a string, or `null`. -/
def field (entries : List (Value × Value)) (key : String) : Value := (field? entries key).getD null

end Value

end RegionGrid
