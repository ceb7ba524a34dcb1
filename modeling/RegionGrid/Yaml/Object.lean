import RegionGrid.Yaml.Document
import RegionGrid.Yaml.Scalar

/-!
# Objects

What the nodes of a document stand for, one object for each node. The objects are made level by
level: a collection is opened when it is met, and its items are looked at when all collections met
before it are complete. So the fault that is found first is the one nearest to the root, and a
collection can hold itself. Merging happens when a mapping is completed, and changes what is met
later.
-/

namespace RegionGrid.Yaml

/-- What a node stands for; collections hold the numbers of nodes. -/
inductive Object where
  | scalar (v : Value)
  | list (items : List Nat)
  | pairs (items : List (Nat × Nat))
  /-- The keys of a mapping are distinct scalars. -/
  | mapping (entries : List (Value × Nat))
  | set (members : List Value)

/-- The objects made so far. -/
structure Objects where
  graph : Graph
  objects : Array (Option Object)
  /-- The nodes of the collections that were met, in this order. -/
  collections : Array Nat := #[]

namespace Objects

/-- The object of a node, if it was met. -/
def object? (o : Objects) (node : Nat) : Option Object := o.objects[node]?.join

/-- Makes the object of a node. -/
private def set (node : Nat) (object : Object) : Objects → Objects
  | ⟨graph, objects, collections⟩ => ⟨graph, objects.setIfInBounds node object, collections⟩

/-- Opens a collection. -/
private def openCollection (node : Nat) : Objects → Objects
  | ⟨graph, objects, collections⟩ =>
    ⟨graph, objects.setIfInBounds node (some (.list [])), collections.push node⟩

/-- Meets a node: a scalar gets its value, and a collection is opened. -/
private def meet (o : Objects) (node : Nat) : Except Fault Objects :=
  match o.object? node with
  | some _ => .ok o
  | none =>
    match o.graph.tag node with
    | .sequence | .mapping | .pairs | .set => .ok (o.openCollection node)
    | .merge | .default | .unknown => .error .malformed
    | tag => do
      let text ← o.graph.text node
      if let (.time, .mapping _) := (tag, o.graph.content node) then throw .timeInMapping
      return o.set node (.scalar (← scalarValue tag text))

/-- Meets the two nodes of a pair. -/
private def meetPair (o : Objects) (key value : Nat) : Except Fault Objects := do
  (← o.meet key).meet value

/-- A key with what tells it from other keys where its value does not. -/
private structure Key where
  value : Value
  /-- The node of the key, or nothing for the word for what is no number. -/
  source? : Option Nat

private instance : BEq Key := ⟨fun a b => a.source? == b.source? || a.value.sameKey b.value⟩

/-- A key that was met; a collection is none. -/
private def key (o : Objects) (node : Nat) : Except Fault Key :=
  match o.object? node with
  | some (.scalar v) =>
    let text := (o.graph.text node).toOption.getD ""
    .ok ⟨v, if isNoNumberWord (o.graph.tag node) text then none else some node⟩
  | _ => .error .malformed

/-- The entries of a mapping, whose keys must be scalars, one after the other. -/
private def meetEntries (o : Objects) (entries : List (Nat × Nat)) :
    Except Fault (List (Key × Nat) × Objects) :=
  entries.foldlM (fun (found, o) (keyNode, value) => do
    let o ← o.meet keyNode
    let key ← o.key keyNode
    let o ← o.meet value
    return (Assoc.insert found key value, o)) ([], o)

/-- The items of a sequence of mappings with one entry each. -/
private def meetPairs (o : Objects) (items : List Nat) :
    Except Fault (List (Nat × Nat) × Objects) := do
  let (found, o) ← items.foldlM (fun (found, o) item => do
    let .mapping [(key, value)] := o.graph.content item | throw .malformed
    return ((key, value) :: found, ← o.meetPair key value)) ([], o)
  return (found.reverse, o)

/-- Completes a collection. -/
private def complete (o : Objects) (node : Nat) : Except Fault Objects :=
  match o.graph.tag node, o.graph.content node with
  | .sequence, .sequence items => do
    let o ← items.foldlM meet o
    return o.set node (.list items)
  | .pairs, .sequence items => do
    let (pairs, o) ← o.meetPairs items
    return o.set node (.pairs pairs)
  | tag, .mapping _ => do
    if tag ≠ .mapping ∧ tag ≠ .set then throw .malformed
    let graph ← o.graph.merge node
    let entries := match graph.content node with
      | .mapping entries => entries
      | _ => []
    let (found, o) ← { o with graph }.meetEntries entries
    if tag = .set then return o.set node (.set (found.map (·.1.value)))
    return o.set node (.mapping (found.map fun (key, value) => (key.value, value)))
  | _, _ => .error .malformed

/-- Completes the collections from a given one on; each node is opened at most once. -/
private def completeFrom (o : Objects) (done : Nat) : Nat → Except Fault Objects
  | 0 => .ok o
  | fuel + 1 =>
    match o.collections[done]? with
    | some node => do (← o.complete node).completeFrom (done + 1) fuel
    | none => .ok o

/-- The objects of a document. -/
def ofDocument (d : Document) : Except Fault Objects := do
  let start : Objects := { graph := d.graph, objects := Array.replicate d.graph.size none }
  (← start.meet d.root).completeFrom 0 d.graph.size

end Objects

end RegionGrid.Yaml
