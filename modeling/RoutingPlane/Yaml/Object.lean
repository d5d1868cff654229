import RoutingPlane.Yaml.Merge
import RoutingPlane.Yaml.Scalar

/-!
The objects that nodes stand for. An object is begun when its node is first met
and then never again: a scalar is read at once, and a collection waits for its
turn to be filled with the objects of its parts. So a collection can hold itself,
and of several faults the one that is met first in this order decides.
-/

namespace RoutingPlane.Yaml

/-- What a node stands for. The parts of a collection are given by the numbers of
their nodes, except for keys. -/
inductive Object where
  | scalar (value : Value)
  | list (items : List Nat)
  /-- A list of pairs. -/
  | pairs (entries : List (Nat × Nat))
  | set (members : List Value)
  | map (entries : List (Value × Nat))
  deriving Repr

/-- The empty collection that a node with a tag is begun with. -/
def Object.begun? : Tag → Option Object
  | .list => some (.list [])
  | .map => some (.map [])
  | .set => some (.set [])
  | .orderedMap => some (.pairs [])
  | .pairs => some (.pairs [])
  | _ => none

structure Construction where
  nodes : Nodes
  /-- The objects that are begun, by the numbers of their nodes. -/
  objects : Array (Option Object)
  /-- The collections in the order in which they were begun. -/
  order : Array Nat := #[]
  /-- The number of keys that can take over entries. -/
  merges : Nat

namespace Construction

def ofNodes (nodes : Nodes) : Construction where
  nodes
  objects := Array.replicate nodes.size none
  merges := nodes.mergeCount

/-! ## Scalars -/

/-- The text of a node that stands for a scalar: its own, or that of the value
that stands for the whole mapping, found in a number of steps. -/
def textOf (nodes : Nodes) : Nat → Nat → Except DocumentFault String
  | 0, _ => .error .tooDeep
  | steps + 1, number => do
      let node ← nodes[number]?
      match node.content with
      | .scalar text => return text
      | .sequence _ => throw .malformed
      | .mapping entries =>
          let (_, value) ← entries.find? fun entry => nodes.hasTag .standIn entry.1
          textOf nodes steps value

/-- The value of a node that stands for a scalar. Times are read from a scalar
only. -/
def scalarOf (nodes : Nodes) (number : Nat) (node : Node) : Except DocumentFault Value := do
  let text ← textOf nodes (nodes.size + 1) number
  match node.tag, node.content with
  | .time, .mapping _ => throw .mappingForTime
  | tag, _ => Scalar.value number tag text

/-! ## Collections -/

def put (construction : Construction) (number : Nat) (object : Object) : Construction :=
  { construction with objects := construction.objects.setIfInBounds number (some object) }

def object? (construction : Construction) (number : Nat) : Option Object :=
  construction.objects[number]?.join

/-- Begins the object of a node unless it is begun. -/
def begun (construction : Construction) (number : Nat) : Except DocumentFault Construction := do
  if (construction.object? number).isSome then return construction
  let node ← construction.nodes[number]?
  if node.tag.isScalar then
    return construction.put number (.scalar (← scalarOf construction.nodes number node))
  let object ← Object.begun? node.tag
  return { construction.put number object with order := construction.order.push number }

/-- The value of a key, which must be begun. A collection is no key. -/
def keyOf? (construction : Construction) (number : Nat) : Option Value :=
  match construction.object? number with
  | some (.scalar value) => some value
  | _ => none

def begunEntry (construction : Construction) (entry : Nat × Nat) :
    Except DocumentFault (Construction × Value) := do
  let keyed ← construction.begun entry.1
  let key ← keyed.keyOf? entry.1
  return (← keyed.begun entry.2, key)

/-- Begins the parts of a mapping, with the entries that it takes over, and tells
its entries. -/
def begunEntries (construction : Construction) (number : Nat) :
    Except DocumentFault (Construction × List (Value × Nat)) := do
  let nodes ← construction.nodes.takeOver (construction.merges + 1) number []
  let entries ← nodes.entries? number
  let (last, reversed) ← entries.foldlM (fun begun entry => do
    let (after, key) ← begun.1.begunEntry entry
    return (after, (key, entry.2) :: begun.2)) ({ construction with nodes }, [])
  return (last, Value.distinctEntries reversed.reverse)

/-- Begins the parts of a list of mappings with one entry, and tells the
entries. -/
def begunPairs (construction : Construction) (items : List Nat) :
    Except DocumentFault (Construction × List (Nat × Nat)) := do
  let (last, reversed) ← items.foldlM (fun begun item => do
    match ← begun.1.nodes.entries? item with
    | [entry] => return (← (← begun.1.begun entry.1).begun entry.2, entry :: begun.2)
    | _ => throw .malformed) (construction, [])
  return (last, reversed.reverse)

def filled (construction : Construction) (number : Nat) (tag : Tag) :
    Except DocumentFault Construction := do
  match tag with
  | .list =>
      let items ← construction.nodes.items? number
      return (← items.foldlM begun construction).put number (.list items)
  | .orderedMap | .pairs =>
      let (after, entries) ← construction.begunPairs (← construction.nodes.items? number)
      return after.put number (.pairs entries)
  | .set =>
      let (after, entries) ← construction.begunEntries number
      return after.put number (.set (entries.map Prod.fst))
  | .map =>
      let (after, entries) ← construction.begunEntries number
      return after.put number (.map entries)
  | _ => return construction

/-- Fills the collections from a place in their order on, at most the given
number of them. -/
def filledFrom : Nat → Nat → Construction → Except DocumentFault Construction
  | 0, _, construction => .ok construction
  | count + 1, place, construction =>
      match construction.order[place]? with
      | none => .ok construction
      | some number => do
          let node ← construction.nodes[number]?
          filledFrom count (place + 1) (← construction.filled number node.tag)

end Construction

/-- The objects of the nodes of a document, as far as its root leads to them. A
node is filled once, so there are no more turns than nodes. -/
def Composition.objects (composition : Composition) :
    Except DocumentFault (Array (Option Object)) := do
  let start ← (Construction.ofNodes composition.nodes).begun composition.root
  let finished ← Construction.filledFrom composition.nodes.size 0 start
  return finished.objects

end RoutingPlane.Yaml
