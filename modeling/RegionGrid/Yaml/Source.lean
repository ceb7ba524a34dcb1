import RegionGrid.Text.Encoding
import RegionGrid.Yaml.Cursor

/-!
# The text of a document

A document is a text or a file. A text is looked through for characters that it may not hold before
anything else is done with it. A file is read in blocks, a large one at first and smaller ones later,
and decoded in runs of bytes: what is wrong with a block shows only when the block is needed.
-/

namespace RegionGrid.Yaml

/-- The text of a document as far as it can be read. -/
structure Source where
  text : List Char
  /-- What is wrong with the text behind that; nothing if there is none. -/
  fault? : Option Fault := none

namespace Source

/-- The place in a file where the block with a character starts. -/
def blockStart (index : Nat) : Nat := if index < 8192 then 0 else index / 4096 * 4096

/-- How many bytes of a file are decoded at once. -/
def decodedRun : Nat := 8192

/-- The source up to the block that holds the first character that no document may hold. -/
private def upToForbidden (s : Source) (blockStart : Nat → Nat) : Source :=
  let index := (s.text.takeWhile isDocumentChar).length
  if index < s.text.length then ⟨s.text.take (blockStart index), some .malformed⟩ else s

/-- The source that a text is. -/
def ofText (text : String) : Source := upToForbidden { text := text.toList } fun _ => 0

/-- The source that the bytes of a file are. -/
def ofBytes (bytes : List UInt8) : Source :=
  let (chars, size) := decodedStart bytes
  if size = bytes.length then upToForbidden { text := withLineFeeds chars } blockStart
  else
    let runs := withLineFeeds (decodedStart (bytes.take (size / decodedRun * decodedRun))).1
    upToForbidden ⟨runs.take (blockStart runs.length), some .notText⟩ blockStart

end Source

end RegionGrid.Yaml
