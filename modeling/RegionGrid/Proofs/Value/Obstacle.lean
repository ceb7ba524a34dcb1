import RegionGrid.Value

/-!
# Values that are nested too deeply

How many values stand in one another in the literal of a value is a number that does not depend on how much room
there is. Main statement: with as much room nothing is nested too deeply, and with less the value is not shown.
In between it is the numbers that decide, and which of the two obstacles comes first.
-/

namespace RegionGrid

namespace Value

/-! ### Levels -/

mutual

/-- How many values stand in one another in a value, as a part of the collections with the given labels. -/
def levelsWithin (above : List Label) : Value → Nat
  | null | bool _ | int _ | float _ | string _ | bytes _ | date _ => 1
  | moment m => momentLevels m
  | list items label? => 1 + if label?.any above.contains then 0 else mostLevels (label?.toList ++ above) items
  | pair first second label? =>
    1 + if label?.any above.contains then 0
      else max (first.levelsWithin (label?.toList ++ above)) (second.levelsWithin (label?.toList ++ above))
  | mapping entries label? =>
    1 + if label?.any above.contains then 0 else mostEntryLevels (label?.toList ++ above) entries
  | set [] => 1
  | set members => 2 + mostLevels above members
  | track size => trackLevels size

def mostLevels (above : List Label) : List Value → Nat
  | [] => 0
  | v :: rest => max (v.levelsWithin above) (mostLevels above rest)

def mostEntryLevels (above : List Label) : List (Value × Value) → Nat
  | [] => 0
  | (key, v) :: rest => max (max (key.levelsWithin above) (v.levelsWithin above)) (mostEntryLevels above rest)

end

/-- How many values stand in one another where a value is shown. A string by itself is shown as it is. -/
def levels : Value → Nat
  | string _ => 0
  | v => v.levelsWithin []

/-! ### Room for levels -/

namespace Obstacle

/-- So many levels are enough room, and there is something in the way if there is less. -/
structure Measures (levels : Nat) (obstacle : Nat → Option Obstacle) : Prop where
  enough : ∀ room, levels ≤ room → obstacle room ≠ some .tooDeep
  needed : ∀ room, obstacle room = none → levels ≤ room

variable {m n : Nat} {f g : Nat → Option Obstacle}

theorem measures_none : Measures 0 fun _ => none := ⟨fun _ _ => nofun, fun _ _ => Nat.zero_le _⟩

theorem measures_digits (n : Int) : Measures 0 fun _ => if isWritable n then none else some .tooManyDigits := by
  refine ⟨fun _ _ htooDeep => ?_, fun _ _ => Nat.zero_le _⟩
  generalize isWritable n = short at htooDeep
  cases short <;> cases htooDeep

theorem Measures.below (hf : Measures n f) : Measures (m + n) (below m f) := by
  constructor
  · intro room henough
    have hroom : ¬ room < m := by omega
    have hrest : n ≤ room - m := by omega
    rw [Obstacle.below, if_neg hroom]
    exact hf.enough _ hrest
  · intro room hnone
    rw [Obstacle.below] at hnone
    by_cases hroom : room < m
    · rw [if_pos hroom] at hnone
      cases hnone
    · rw [if_neg hroom] at hnone
      have hrest := hf.needed _ hnone
      omega

theorem Measures.or (hf : Measures m f) (hg : Measures n g) :
    Measures (max m n) fun room => (f room).or (g room) := by
  constructor
  · intro room henough htooDeep
    obtain ⟨hm, hn⟩ := Nat.max_le.mp henough
    obtain hfirst | ⟨-, hsecond⟩ := Option.or_eq_some_iff.mp htooDeep
    · exact hf.enough room hm hfirst
    · exact hg.enough room hn hsecond
  · intro room hnone
    obtain ⟨hfirst, hsecond⟩ := Option.or_eq_none_iff.mp hnone
    exact Nat.max_le.mpr ⟨hf.needed room hfirst, hg.needed room hsecond⟩

theorem Measures.unless (cut : Bool) (hf : Measures n f) :
    Measures (if cut then 0 else n) fun room => if cut then none else f room := by
  cases cut with
  | true => exact measures_none
  | false => exact hf

end Obstacle

open Obstacle

mutual

theorem measures_levelsWithin (above : List Label) :
    ∀ v : Value, Measures (v.levelsWithin above) fun room => v.obstacleWithin above room
  | null | bool _ | float _ | string _ | bytes _ | date _ => measures_none.below
  | int n => (measures_digits n).below
  | moment _ => measures_none.below
  | list items label? => ((measures_mostLevels (label?.toList ++ above) items).unless _).below
  | pair first second label? =>
    (((measures_levelsWithin (label?.toList ++ above) first).or
      (measures_levelsWithin (label?.toList ++ above) second)).unless _).below
  | mapping entries label? => ((measures_mostEntryLevels (label?.toList ++ above) entries).unless _).below
  | set [] => measures_none.below
  | set (v :: rest) => (measures_mostLevels above (v :: rest)).below
  | track _ => measures_none.below

theorem measures_mostLevels (above : List Label) :
    ∀ items : List Value, Measures (mostLevels above items) fun room => obstaclesWithin above room items
  | [] => measures_none
  | v :: rest => (measures_levelsWithin above v).or (measures_mostLevels above rest)

theorem measures_mostEntryLevels (above : List Label) : ∀ entries : List (Value × Value),
    Measures (mostEntryLevels above entries) fun room => entryObstaclesWithin above room entries
  | [] => measures_none
  | (key, v) :: rest =>
    ((measures_levelsWithin above key).or (measures_levelsWithin above v)).or (measures_mostEntryLevels above rest)

end

/-- A value is nested too deeply only where there is less room than it has levels, and there it is not shown. -/
theorem measures_levels (v : Value) : Measures v.levels (v.obstacle? ·) := by
  cases v with
  | string s => exact measures_none
  | _ => exact measures_levelsWithin [] _

/-- A number in a list in a list. -/
example : (list [list [int 1]]).levels = 3 := rfl

/-! ### Messages -/

variable {room : Nat} {shown : List Value} {text : String}

/-- A message that is not given for the depth of a value shows one with more levels than there is room for. -/
theorem exists_levels_of_message (htooDeep : message room shown text = .error .tooDeep) :
    ∃ v ∈ shown, room < v.levels := by
  rw [message] at htooDeep
  cases hobstacle : shown.findSome? (obstacle? room) with
  | none => simp [hobstacle] at htooDeep
  | some obstacle =>
    obtain rfl : obstacle = .tooDeep := by simpa [hobstacle] using htooDeep
    obtain ⟨v, hv, hdeep⟩ := List.exists_of_findSome?_eq_some hobstacle
    exact ⟨v, hv, Nat.lt_of_not_le fun henough => (measures_levels v).enough room henough hdeep⟩

theorem levels_le_of_message {words : String} (hok : message room shown text = .ok words) :
    words = text ∧ ∀ v ∈ shown, v.levels ≤ room := by
  rw [message] at hok
  cases hobstacle : shown.findSome? (obstacle? room) with
  | some obstacle => simp [hobstacle] at hok
  | none =>
    refine ⟨by simpa [hobstacle, eq_comm] using hok, fun v hv => (measures_levels v).needed room ?_⟩
    exact List.findSome?_eq_none_iff.mp hobstacle v hv

end Value

end RegionGrid
