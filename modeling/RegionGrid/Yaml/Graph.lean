import RegionGrid.Yaml.Fault
import RegionGrid.Yaml.Tag

/-!
# Graphs of nodes

The nodes of a document, by number. A collection holds the numbers of its nodes, so that one node can
stand at several places, and a collection can hold itself.
-/

namespace RegionGrid.Yaml

/-- What a node holds. -/
inductive Content where
  | scalar (text : String)
  | sequence (items : List Nat)
  | mapping (entries : List (Nat × Nat))
  deriving DecidableEq, Repr

/-- A node of a document. -/
structure Node where
  tag : Tag
  content : Content
  deriving DecidableEq, Repr

/-- The nodes of a document. -/
abbrev Graph := Array Node

namespace Graph

/-- The tag of a node. -/
def tag (g : Graph) (node : Nat) : Tag := (g[node]?.map Node.tag).getD .unknown

/-- What a node holds. -/
def content (g : Graph) (node : Nat) : Content := (g[node]?.map Node.content).getD (.scalar "")

/-- The graph with other contents of a node. -/
def fill (g : Graph) (node : Nat) (content : Content) : Graph := g.modify node ({ · with content })

/-- The graph with another tag of a node. -/
def retag (g : Graph) (node : Nat) (tag : Tag) : Graph := g.modify node ({ · with tag })

/-- The text that a node holds, or, for a mapping, the one that its entry for the whole holds. -/
private def textWithin (g : Graph) : Nat → Nat → Except Fault String
  | 0, _ => .error .tooDeep
  | fuel + 1, node =>
    match g.content node with
    | .scalar text => .ok text
    | .sequence _ => .error .malformed
    | .mapping entries =>
      match entries.find? fun (key, _) => g.tag key == .default with
      | some (_, value) => g.textWithin fuel value
      | none => .error .malformed

/--
The text that a node stands for as a scalar. A mapping stands for that of its entry for the mapping
as a whole, if it has one.
-/
def text (g : Graph) (node : Nat) : Except Fault String := g.textWithin (g.size + 1) node

/-! ### Merging -/

/-- Takes the first entry that merges out of a mapping: the graph without it, and what it merges. -/
private def takeMerge? (g : Graph) (node : Nat) : Option (Nat × Graph) :=
  match g.content node with
  | .mapping entries =>
    let (before, rest) := entries.span fun (key, _) => g.tag key != .merge
    match rest with
    | (_, source) :: after => some (source, g.fill node (.mapping (before ++ after)))
    | [] => none
  | _ => none

private def entries (g : Graph) (node : Nat) : List (Nat × Nat) :=
  match g.content node with
  | .mapping entries => entries
  | _ => []

/-- Puts the merged entries of a mapping before its own, whose keys for the whole become texts. -/
private def finishMerge (g : Graph) (node : Nat) (merged : List (Nat × Nat)) : Graph :=
  let own := g.entries node
  let g := own.foldl (fun g (key, _) => if g.tag key == .default then g.retag key .string else g) g
  g.fill node (.mapping (merged ++ own))

/-- The mappings that an entry merges: one, or those of a sequence. -/
private def sources (g : Graph) (source : Nat) : Except Fault (List Nat) :=
  match g.content source with
  | .mapping _ => .ok [source]
  | .sequence items => .ok items
  | .scalar _ => .error .malformed

/--
Merges into a mapping, whose merged entries so far are given. Every merge takes an entry out of the
graph, so their number bounds the work even where mappings merge each other.
-/
private def mergeWithin (node : Nat) : Nat → List (Nat × Nat) → Graph → Except Fault Graph
  | 0, _, g => .ok g
  | fuel + 1, merged, g =>
    match g.takeMerge? node with
    | none => .ok (g.finishMerge node merged)
    | some (source, g) => do
      let mergeOne (found : List (List (Nat × Nat)) × Graph) (source : Nat) :
          Except Fault (List (List (Nat × Nat)) × Graph) := do
        let (lists, g) := found
        let .mapping _ := g.content source | throw .malformed
        let g ← mergeWithin source fuel [] g
        return (g.entries source :: lists, g)
      let (lists, g) ← (← g.sources source).foldlM mergeOne ([], g)
      mergeWithin node fuel (merged ++ lists.flatten) g

/--
Replaces the entries of a mapping that merge others by the entries of those. These come before its
own, which therefore override them; of several mappings in a sequence the last ones come first. The
mappings that are merged are changed in the same way.
-/
def merge (g : Graph) (node : Nat) : Except Fault Graph :=
  let isMerge (key : Nat × Nat) : Bool := g.tag key.1 == .merge
  let count := g.foldl (fun count n => match n.content with
    | .mapping entries => count + entries.countP isMerge
    | _ => count) 0
  mergeWithin node (count + 1) [] g

end Graph

end RegionGrid.Yaml
