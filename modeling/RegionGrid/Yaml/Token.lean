import RegionGrid.Yaml.Cursor

/-!
# Tokens

What a YAML document is made of once its indentation is told by tokens of its own: the start and the
end of every block collection are tokens, and so is every key.
-/

namespace RegionGrid.Yaml

/-- What a line that starts with a percent sign says. -/
inductive Directive where
  | version (major : Nat)
  | tag (handle uri : String)
  | reserved
  deriving DecidableEq, Repr

/-- A token of a document. -/
inductive Token where
  | directive (d : Directive)
  | documentStart
  | documentEnd
  | blockSequenceStart
  | blockMappingStart
  | blockEnd
  | flowSequenceStart
  | flowSequenceEnd
  | flowMappingStart
  | flowMappingEnd
  | blockEntry
  | flowEntry
  | key
  | value
  /-- The node of an anchor stands here. -/
  | reference (name : String)
  | anchor (name : String)
  /-- A tag without a handle is meant as it is written. -/
  | tag (handle : Option String) (suffix : String)
  /-- A scalar is plain when it stands without quotes and is not a block. -/
  | scalar (text : String) (plain : Bool)
  /-- The text is at fault here; nothing is read after this. -/
  | invalid (fault : Fault)
  deriving DecidableEq, Repr

end RegionGrid.Yaml
