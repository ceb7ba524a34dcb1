import RegionGrid.Yaml.Object
import RegionGrid.Yaml.Reader
import RegionGrid.Yaml.Token.Stream

/-!
# The value of a document

The value that a YAML document stands for; a text without a document stands for nothing. The objects
that hold no collection which holds itself have values of their own. The other objects are unrolled:
down to a given depth as they are, and from there until a collection would come again.
-/

namespace RegionGrid.Yaml

namespace Object

/-- The nodes that an object holds. -/
private def parts : Object → List Nat
  | scalar _ | set _ => []
  | list items => items
  | pairs items => items.flatMap fun (key, value) => [key, value]
  | mapping entries => entries.map (·.2)

/--
The value of an object whose parts have values. A label tells a collection that holds itself from
others.
-/
private def value (part : Nat → Value) (label? : Option Nat) : Object → Value
  | scalar v => v
  | list items => .list (items.map part) (label?.map (·, 0))
  | pairs items =>
    let pairs := items.zipIdx.map fun ((key, value), i) =>
      .pair (part key) (part value) (label?.map (·, i + 1))
    .list pairs (label?.map (·, 0))
  | mapping entries =>
    .mapping (entries.map fun (key, value) => (key, part value)) (label?.map (·, 0))
  | set members => .set members

/-- The object without its parts. -/
private def emptied : Object → Object
  | list _ => list []
  | pairs _ => pairs []
  | mapping _ => mapping []
  | object => object

end Object

namespace Objects

/-- Gives values to the objects whose parts have values, the last ones first. -/
private def settleOnce (o : Objects) (values : Array (Option Value)) : Array (Option Value) :=
  (List.range o.objects.size).foldr (fun node values =>
    match values[node]?.join, o.object? node with
    | none, some object =>
      if object.parts.all fun part => (values[part]?.join).isSome then
        values.setIfInBounds node (object.value (fun part => (values[part]?.join).getD .null) none)
      else values
    | _, _ => values) values

/-- Gives values to all objects that hold no collection which holds itself. -/
private def settle (o : Objects) : Nat → Array (Option Value) → Array (Option Value)
  | 0, values => values
  | fuel + 1, values =>
    let next := o.settleOnce values
    if next.countP Option.isSome = values.countP Option.isSome then values else o.settle fuel next

/-- The value of a node that is met at a level, inside of the given nodes from the depth on. -/
private def unrolled (o : Objects) (values : Array (Option Value)) (depth : Nat) :
    Nat → Nat → List Nat → Nat → Value
  | 0, _, _, _ => .null
  | fuel + 1, level, above, node =>
    match values[node]?.join, o.object? node with
    | some v, _ => v
    | none, none => .null
    | none, some object =>
      if above.contains node then object.emptied.value (fun _ => .null) (some node)
      else
        let above := if level < depth then [] else node :: above
        object.value (o.unrolled values depth fuel (level + 1) above) (some node)

/-- The value of a node. -/
def value (o : Objects) (depth node : Nat) : Value :=
  let size := o.objects.size
  let values := o.settle size (Array.replicate size none)
  o.unrolled values depth (depth + size + 1) 0 [] node

end Objects

/--
The value that a document stands for. It can be looked into down to the given depth, and everything
that is found there can be shown.
-/
def load (depth : Nat) (source : Source) : Except Fault Value := do
  match ← Document.ofTokens (tokens source) with
  | some document => return (← Objects.ofDocument document).value depth document.root
  | none => return .null

/-- The reader of documents whose values can be looked into down to the given depth. -/
def reader (depth : Nat) : Reader where
  text text := load depth (.ofText text)
  file bytes := load depth (.ofBytes bytes)

end RegionGrid.Yaml
