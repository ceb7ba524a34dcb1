/-!
# Base 64

Bytes written with 64 characters, four characters for three bytes. Other characters are left out of
account, and what follows the padding is not read.
-/

namespace RegionGrid

/-- The six bits that a character stands for. -/
def sextet? (c : Char) : Option Nat :=
  if c.isUpper then some (c.toNat - 'A'.toNat)
  else if c.isLower then some (c.toNat - 'a'.toNat + 26)
  else if c.isDigit then some (c.toNat - '0'.toNat + 52)
  else if c == '+' then some 62
  else if c == '/' then some 63
  else none

/--
The bytes of a text of which some characters of a group of four have been read. What these leave
over of their bits, and the padding after them, are given.
-/
private def bytesAfter (place bits padding : Nat) : List Char → Option (List UInt8)
  | [] => if place = 0 then some [] else none
  | c :: rest =>
    if c = '=' then
      if place < 2 then bytesAfter place bits padding rest
      else if 4 ≤ place + padding + 1 then some []
      else bytesAfter place bits (padding + 1) rest
    else
      match sextet? c with
      | none => bytesAfter place bits padding rest
      | some n =>
        match place with
        | 0 => bytesAfter 1 n 0 rest
        | 1 => (bytesAfter 2 (n % 16) 0 rest).map (UInt8.ofNat (bits * 4 + n / 16) :: ·)
        | 2 => (bytesAfter 3 (n % 4) 0 rest).map (UInt8.ofNat (bits * 16 + n / 4) :: ·)
        | _ => (bytesAfter 0 0 0 rest).map (UInt8.ofNat (bits * 64 + n) :: ·)

/-- The bytes that a text writes; none if its last group is not complete. -/
def base64Bytes? (s : List Char) : Option (List UInt8) := bytesAfter 0 0 0 s

end RegionGrid
