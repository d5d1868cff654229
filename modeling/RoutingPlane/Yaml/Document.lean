import RoutingPlane.Yaml.Node.Reader
import RoutingPlane.Yaml.Object

/-!
The value that a document describes: the object of its root with the objects of
its parts inside. Collections from which some way leads back to a collection on
it form a knot; all others are values of their own, shared by all that hold them.
-/

namespace RoutingPlane.Yaml

/-! ## What leads back -/

inductive Standing where
  | unknown
  /-- A way from the node leads back to a collection on it, or may do so. -/
  | knotted
  /-- The node has a value of its own. -/
  | free (value : Value)
  deriving Inhabited, Repr

namespace Standing

def ofParts (parts : List (Option Value)) (collection : List Value → Value) : Option Value :=
  (parts.mapM id).map collection

/-- The value of an object, if its parts have values of their own: they are settled from first to
last. -/
def ofObject (inner : Nat → StateM (Array Standing) (Option Value)) :
    Option Object → StateM (Array Standing) (Option Value)
  | none => return some .null
  | some (.scalar value) => return some value
  | some (.set members) => return some (.set members)
  | some (.list items) => return ofParts (← items.mapM inner) .list
  | some (.pairs entries) => do
      let tuples ← entries.mapM fun entry => do
        return ofParts [← inner entry.1, ← inner entry.2] .tuple
      return ofParts tuples .list
  | some (.map entries) => do
      let values ← entries.mapM fun entry => inner entry.2
      return ofParts values fun values => .map ((entries.map Prod.fst).zip values)

/-- Settles what a node stands for, and with it all that it leads to. A collection
counts as knotted until its parts are settled, so that it is if one of them leads
back to it. Each step down meets another node, so their number bounds the
nesting. -/
def settle (objects : Array (Option Object)) : Nat → Nat → StateM (Array Standing) (Option Value)
  | 0, _ => return none
  | nesting + 1, number => do
      match (← get)[number]?.getD unknown with
      | free value => return some value
      | knotted => return none
      | unknown =>
          modify fun standings => standings.setIfInBounds number knotted
          let found ← ofObject (settle objects nesting) objects[number]?.join
          if let some value := found then
            modify fun standings => standings.setIfInBounds number (free value)
          return found

end Standing

/-! ## Knots -/

namespace Knot

def part (standings : Array Standing) (number : Nat) : Value :=
  match standings[number]? with
  | some (.free value) => value
  | _ => .again number

/-- The pair of two nodes, and the parts of the knot with it: it has a place of its
own if it leads back. -/
def pair (standings : Array Standing) (parts : Array Value) (entry : Nat × Nat) :
    Array Value × Value :=
  let tuple := Value.tuple [part standings entry.1, part standings entry.2]
  match standings[entry.1]?, standings[entry.2]? with
  | some (.free _), some (.free _) => (parts, tuple)
  | _, _ => (parts.push tuple, .again parts.size)

/-- Enters the collection of a knotted node among the parts of the knot. -/
def enter (objects : Array (Option Object)) (standings : Array Standing) (parts : Array Value)
    (number : Nat) : Array Value :=
  match standings[number]?, objects[number]?.join with
  | some .knotted, some (.list items) =>
      parts.setIfInBounds number (.list (items.map (part standings)))
  | some .knotted, some (.map entries) =>
      parts.setIfInBounds number
        (.map (entries.map fun entry => (entry.1, part standings entry.2)))
  | some .knotted, some (.pairs entries) =>
      let (grown, items) := entries.foldl (fun made entry =>
        let (grown, item) := pair standings made.1 entry
        (grown, item :: made.2)) (parts, [])
      grown.setIfInBounds number (.list items.reverse)
  | _, _ => parts

/-- The parts of the knot: those of the nodes under their numbers, and behind them
the pairs. -/
def parts (objects : Array (Option Object)) (standings : Array Standing) : Array Value :=
  (List.range objects.size).foldl (enter objects standings)
    (Array.replicate objects.size .null)

end Knot

/-! ## Documents -/

def Composition.value (composition : Composition) : Except DocumentFault Value := do
  let objects ← composition.objects
  let (found, standings) := (Standing.settle objects (objects.size + 1) composition.root).run
    (Array.replicate objects.size .unknown)
  return found.getD (.knot (Knot.parts objects standings) composition.root)

end RoutingPlane.Yaml
