import RegionGrid.Summation
import RegionGrid.Track

/-!
# Resolving track sizes

Shares an extent out among the tracks of one axis. Fixed tracks get what they ask for, even when it
is more than there is; the rest, if there is a rest, goes to the other tracks in proportion to their
weights. No track ends up with a negative size.

Every comparison is written in the direction in which it is made, because that decides what becomes
of a number that is not comparable to any other.
-/

namespace RegionGrid

variable {α : Type}

namespace TrackSize

def pixels? : TrackSize α → Option α
  | fixed pixels => some pixels
  | _ => none

/-- The weight of a track in sharing the free space: none for a fixed track. -/
def weight [Zero α] [One α] : TrackSize α → α
  | fixed _ => 0
  | flex factor => factor
  | content => 1

end TrackSize

/-- The first `count` track sizes, with `content` for those that are missing. -/
def paddedTracks (specs : List (TrackSize α)) (count : Nat) : List (TrackSize α) :=
  specs.take count ++ List.replicate (count - specs.length) .content

variable [Zero α] [LT α] [DecidableLT α]

/-- The number, or zero in place of a negative number. -/
def atLeastZero (x : α) : α := if x < 0 then 0 else x

variable [One α] [Add α] [Sub α] [Mul α] [Div α]

/-- The extent that the fixed tracks leave. -/
def freeSpace (tracks : List (TrackSize α)) (extent : α) : α :=
  atLeastZero (extent - pairwiseSum (tracks.filterMap TrackSize.pixels?))

/-- The sizes of the tracks when they share a positive extent. -/
def shareOut (tracks : List (TrackSize α)) (extent : α) : List α :=
  let free := freeSpace tracks extent
  let weights := pairwiseSum (tracks.map TrackSize.weight)
  tracks.map fun
    | .fixed pixels => atLeastZero pixels
    | track => if 0 < weights ∧ 0 < free then atLeastZero (track.weight * (free / weights)) else 0

/--
The sizes of `count` tracks that share an extent. A count that is not positive has no tracks, and in
an extent that is not positive every track has size zero.
-/
def resolve [LE α] [DecidableLE α] (specs : List (TrackSize α)) (extent : α) (count : Int) :
    List α :=
  let tracks := paddedTracks specs count.toNat
  if extent ≤ 0 then tracks.map fun _ => 0 else shareOut tracks extent

end RegionGrid
