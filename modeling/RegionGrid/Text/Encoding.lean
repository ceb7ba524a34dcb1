/-!
# Encoded text

The characters that bytes encode in UTF-8. Bytes that encode no text are read as far as they do.
-/

namespace RegionGrid

private def decodeFrom (bytes : ByteArray) (start : Nat) (seen : Array Char) : Array Char × Nat :=
  if _h : start < bytes.size then
    match bytes.utf8DecodeChar? start with
    | some c => decodeFrom bytes (start + c.utf8Size) (seen.push c)
    | none => (seen, start)
  else (seen, start)
termination_by bytes.size - start
decreasing_by have := c.utf8Size_pos; omega

/-- The characters up to the first bytes that encode none, and how many bytes encode them. -/
def decodedStart (bytes : List UInt8) : List Char × Nat :=
  let (chars, size) := decodeFrom ⟨bytes.toArray⟩ 0 #[]
  (chars.toList, size)

/-- The text with every line end made a line feed. -/
def withLineFeeds : List Char → List Char
  | '\r' :: '\n' :: rest => '\n' :: withLineFeeds rest
  | '\r' :: rest => '\n' :: withLineFeeds rest
  | c :: rest => c :: withLineFeeds rest
  | [] => []

end RegionGrid
