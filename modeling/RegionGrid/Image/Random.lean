/-!
# Reproducible random numbers

A stream of 32-bit numbers that a seed decides: the seed is spread over a pool of words, the pool
gives the state and the increment of a 128-bit linear congruential generator, and each state is
permuted into 64 bits, of which the low half comes first.
-/

namespace RegionGrid.Random

/-- A running hash: what the next word is mixed with. -/
private def hashWord (constant : UInt32) (word : UInt32) : UInt32 × UInt32 :=
  let next := constant * 0x931e8875
  let mixed := (word ^^^ constant) * next
  (mixed ^^^ (mixed >>> 16), next)

private def mixWords (x y : UInt32) : UInt32 :=
  let mixed := 0xca01f9dd * x - 0x4973f715 * y
  mixed ^^^ (mixed >>> 16)

/-- Mixes the word at one place of the pool into the one at another. -/
private def mixAt (state : List UInt32 × UInt32) (places : Nat × Nat) : List UInt32 × UInt32 :=
  let (pool, constant) := state
  let (hashed, constant) := hashWord constant (pool.getD places.1 0)
  (pool.set places.2 (mixWords (pool.getD places.2 0) hashed), constant)

/-- The pairs of different places of a pool of four words. -/
private def placePairs : List (Nat × Nat) :=
  (List.range 4).flatMap fun source =>
    ((List.range 4).filter (· ≠ source)).map fun target => (source, target)

/-- The four words that a seed is spread over. -/
private def pool (seed : UInt32) : List UInt32 :=
  let (words, constant) := [seed, 0, 0, 0].foldl
    (fun (words, constant) word =>
      let (hashed, constant) := hashWord constant word
      (words ++ [hashed], constant))
    (([] : List UInt32), (0x43b0d7e5 : UInt32))
  (placePairs.foldl mixAt (words, constant)).1

private def seedWords (pool : List UInt32) : List UInt32 :=
  ((pool ++ pool).foldl
    (fun (words, constant) word =>
      let next := constant * 0x58f38ded
      let mixed := (word ^^^ constant) * next
      (words ++ [mixed ^^^ (mixed >>> 16)], next))
    (([] : List UInt32), (0x8b51f9dd : UInt32))).1

/-- The number that words write, the least significant first. -/
private def ofWords (words : List UInt32) : BitVec 128 :=
  words.foldr (fun word n => (n <<< 32) ||| (word.toBitVec.setWidth 128)) 0

private def multiplier : BitVec 128 := 0x2360ED051FC65DA44385DF649FCCF645

/-- The two 32-bit numbers that a state gives, the low half of its 64 bits first. -/
private def outputs (state : BitVec 128) : List UInt32 :=
  let folded := (state >>> 64).setWidth 64 ^^^ state.setWidth 64
  let rotated := folded.rotateRight (state >>> 122).toNat
  [⟨rotated.setWidth 32⟩, ⟨(rotated >>> 32).setWidth 32⟩]

private def outputsFrom (state increment : BitVec 128) : Nat → List UInt32
  | 0 => []
  | n + 1 =>
    let next := state * multiplier + increment
    outputs next ++ outputsFrom next increment n

/-- The first `2 * count` numbers of the stream that a seed decides. -/
def numbers (seed : UInt32) (count : Nat) : List UInt32 :=
  let words := seedWords (pool seed)
  let half (i : Nat) : BitVec 128 := ofWords ((words.drop (2 * i)).take 2)
  let start := half 0 <<< 64 ||| half 1
  let increment := (half 2 <<< 64 ||| half 3) <<< 1 ||| 1
  outputsFrom ((increment + start) * multiplier + increment) increment count

/--
A number below a bound from a 32-bit number, or none. The numbers that would make some results more
likely than others give none.
-/
def below? (bound : Nat) (number : UInt32) : Option Nat :=
  let scaled := number.toNat * bound
  if scaled % 1 <<< 32 < (1 <<< 32 - bound) % bound then none else some (scaled >>> 32)

end RegionGrid.Random
