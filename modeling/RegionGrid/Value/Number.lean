import RegionGrid.Value

/-!
# Numbers and track sizes from values

A value is a number if it is an integer or a float; truth values are not. A number stands for a fixed
track, a string for the track size it writes, and a track size for itself.
-/

namespace RegionGrid

/-- What keeps a value from being a double. -/
inductive NumberError where
  | notNumber
  /-- An integer that no double is near to. -/
  | tooLarge
  deriving DecidableEq, Repr

def Value.toNumber : Value → Except NumberError Float
  | int n => (Binary64.ofInt? n).elim (.error .tooLarge) .ok
  | float x => .ok x
  | _ => .error .notNumber

/-- What keeps a value from being track sizes. -/
inductive TrackError where
  | notList (v : Value)
  | invalid (v : Value)
  | tooLarge

namespace TrackError

/-- The values that the words for the error show. -/
def shown : TrackError → List Value
  | notList v | invalid v => [v]
  | tooLarge => []

def words : TrackError → String
  | notList v => s!"Track sizes must be a list, got {v.literal}"
  | invalid v => s!"Invalid track size: {v.literal}"
  | tooLarge => Binary64.tooLargeMessage

/-- The error in words, where so many values may stand in one another, or what is in their way. -/
def message (room : Nat) (e : TrackError) : Except Value.Obstacle String :=
  Value.message room e.shown e.words

end TrackError

def TrackSize.ofValue (v : Value) : Except TrackError (TrackSize Float) :=
  match v with
  | .track size => .ok size
  | .string s => (ofText? s).elim (.error (.invalid v)) .ok
  | _ =>
    match v.toNumber with
    | .ok x => .ok (.fixed x)
    | .error .tooLarge => .error .tooLarge
    | .error .notNumber => .error (.invalid v)

/-- The track sizes that a list of values stands for; there are none in the absence of a list. -/
def TrackSize.listOfValue : Value → Except TrackError (List (TrackSize Float))
  | .null => .ok []
  | .list items _ => items.mapM ofValue
  | v => .error (.notList v)

end RegionGrid
