/-!
# Pairwise summation

The sum of a list, in the order of additions that keeps the rounding error of a long sum small. Up to
seven numbers are added from left to right; up to 128 are dealt to eight lanes, which are then added
in pairs; a longer list is cut near its middle, at a multiple of eight. Over exact numbers the order
does not matter, and this is the plain sum.
-/

namespace RegionGrid

variable {α : Type} [Add α]

structure Lanes (α : Type) where
  (a b c d e f g h : α)

namespace Lanes

def add (x y : Lanes α) : Lanes α :=
  ⟨x.a + y.a, x.b + y.b, x.c + y.c, x.d + y.d, x.e + y.e, x.f + y.f, x.g + y.g, x.h + y.h⟩

/-- The sum of the lanes, added in pairs. -/
def total (x : Lanes α) : α :=
  ((x.a + x.b) + (x.c + x.d)) + ((x.e + x.f) + (x.g + x.h))

/-- Deals full groups of eight to the lanes, and adds the numbers left over to their sum. -/
def sum (x : Lanes α) : List α → α
  | a :: b :: c :: d :: e :: f :: g :: h :: rest => (x.add ⟨a, b, c, d, e, f, g, h⟩).sum rest
  | rest => rest.foldl (· + ·) x.total

end Lanes

variable [Zero α]

/-- The sum of a list of at most 128 numbers. -/
def blockSum : List α → α
  | a :: b :: c :: d :: e :: f :: g :: h :: rest => Lanes.sum ⟨a, b, c, d, e, f, g, h⟩ rest
  | few => few.foldl (· + ·) 0

def pairwiseSum (xs : List α) : α :=
  if xs.length ≤ 128 then blockSum xs
  else
    let half := xs.length / 16 * 8
    pairwiseSum (xs.take half) + pairwiseSum (xs.drop half)
termination_by xs.length
decreasing_by
  all_goals simp only [List.length_take, List.length_drop]; omega

end RegionGrid
