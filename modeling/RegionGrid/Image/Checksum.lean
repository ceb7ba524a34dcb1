/-!
# Checksums

The cyclic redundancy check with the reflected polynomial `0xEDB88320`, on 32 bits.
-/

namespace RegionGrid

/-- Shifts one bit out of a running checksum. -/
private def checksumBit (sum : UInt32) : UInt32 :=
  if sum &&& 1 == 1 then (sum >>> 1) ^^^ 0xedb88320 else sum >>> 1

private def checksumByte (sum : UInt32) (byte : UInt8) : UInt32 :=
  Nat.repeat checksumBit 8 (sum ^^^ byte.toUInt32)

def checksum (bytes : List UInt8) : UInt32 := bytes.foldl checksumByte 0xffffffff ^^^ 0xffffffff

end RegionGrid
