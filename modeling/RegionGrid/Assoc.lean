/-!
# Ordered mappings

A mapping as a list of pairs in the order in which its keys were first given. Giving a key again
changes its value and keeps its place.
-/

namespace RegionGrid.Assoc

variable {κ β : Type} [BEq κ]

/-- The mapping with a value given for a key. -/
def insert (entries : List (κ × β)) (key : κ) (value : β) : List (κ × β) :=
  match entries with
  | [] => [(key, value)]
  | (k, v) :: rest => if k == key then (k, value) :: rest else (k, v) :: insert rest key value

/-- The mapping that a list of pairs gives, one pair after the other. -/
def ofList (pairs : List (κ × β)) : List (κ × β) :=
  pairs.foldl (fun entries (key, value) => insert entries key value) []

end RegionGrid.Assoc
