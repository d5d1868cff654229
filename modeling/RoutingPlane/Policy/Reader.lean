import RoutingPlane.Address.Reader
import RoutingPlane.Fault
import RoutingPlane.Value.Conversion

/-!
Reading routing policies from untyped values. An action is a text; every other
statement and every condition is a mapping, told apart by the first of its
known fields. They may lie inside each other as deeply as in the value, but a value
that leads back to itself describes no policy.
-/

namespace RoutingPlane

open RoutingPlane.Text

/-- The value of a field, if something with that name is found in a value. Only
mappings have fields, but names can be found in other values too. -/
def Value.fieldIfFound (name : String) (value : Value) : Except ValueFault (Option Value) := do
  if ← value.holds name then return some (← value.field name)
  return none

/-- Reads a range of lengths around a network: a text stands for the network
alone. -/
def NetworkRange.read : Value → Except ValueFault NetworkRange
  | .text s => return NetworkRange.exact (← Network.read (.text s))
  | value => do
      let network ← Network.read (← value.field "prefix")
      let entries ← value.fields
      let length := Value.int network.length
      let shortest ← ((Value.fieldIn? "min_length" entries).getD length).toInteger
      let longest ← ((Value.fieldIn? "max_length" entries).getD length).toInteger
      return { network, shortest, longest }

def NetworkSet.read : Value → Except ValueFault NetworkSet
  | .text s => return .named s
  | value => return .ranges (← (← value.elements).mapM NetworkRange.read)

def RouteSource.read (value : Value) : Except ValueFault RouteSource := do
  let word := lowercase (← value.toText)
  match ofWord? word with
  | some source => return source
  | none => .error (.notRouteSource (Text.quoted word))

namespace Value

mutual

/-- How many collections a reading of a value can enter, each inside the one before,
until it enters one for a second time in the same way. A collection of a knot can be
entered in four ways: as a statement, as a condition, and as the list of either. -/
def reach : Value → Nat
  | text _ => 1
  | bytes _ => 1
  | list items => itemsReach items + 1
  | tuple items => itemsReach items + 1
  | set members => itemsReach members + 1
  | map entries => entriesReach entries + 1
  | knot ⟨parts⟩ _ => itemsReach parts + 4 * parts.length
  | _ => 0

def itemsReach : List Value → Nat
  | [] => 0
  | item :: rest => max item.reach (itemsReach rest)

def entriesReach : List (Value × Value) → Nat
  | [] => 0
  | (key, value) :: rest => max (max key.reach value.reach) (entriesReach rest)

end

end Value

def firstRoom : Nat := 1000

/-- Reads a value with room for all that it leads to, so only a value that leads back to
itself uses it up. How much that is takes long to tell where collections are shared, and
it is only told if the first room does not do. -/
def readFully {α : Type} (readWithin : Nat → Value → Except DeviceFault α) (value : Value) :
    Except DeviceFault α :=
  match readWithin firstRoom value with
  | .error (.value .endless) => readWithin (value.reach + 1) value
  | outcome => outcome

namespace Condition

/-- Reads a condition that holds no other condition. -/
def readLeaf (value : Value) : Except DeviceFault Condition := do
  if let some source ← value.fieldIfFound "match_protocol" then
    return .learnedFrom (← RouteSource.read source)
  if let some set ← value.fieldIfFound "match_prefix_set" then
    return .within (← NetworkSet.read set)
  if let some policy ← value.fieldIfFound "call" then
    return .call (← policy.toText)
  .error (.unknownCondition (← value.toText))

/-- Reads a condition in a room: one condition takes one place in it, and those inside it share
what is left. -/
def readWithin : Nat → Value → Except DeviceFault Condition
  | 0, _ => .error (.value .endless)
  | room + 1, value => do
      if let some parts ← value.fieldIfFound "all" then
        return .all (← (← parts.elements).mapM (readWithin room))
      if let some parts ← value.fieldIfFound "any" then
        return .any (← (← parts.elements).mapM (readWithin room))
      if let some part ← value.fieldIfFound "not" then
        return .not (← readWithin room part)
      readLeaf value

def read (value : Value) : Except DeviceFault Condition :=
  readFully readWithin value

end Condition

namespace Statement

def readAction (s : String) : Except DeviceFault Statement :=
  let word := lowercase s
  match Action.ofWord? word with
  | some action => .ok (.act action)
  | none => .error (.value (.notAction (Text.quoted word)))

/-- The elements of a field, none if it is missing or counts as false. -/
def block (name : String) (entries : List (Value × Value)) :
    Except ValueFault (List Value) :=
  ((Value.fieldIn? name entries).getD .null).elementsOrNone

def readCall (value : Value) : Except DeviceFault Statement := do
  if let some policy ← value.fieldIfFound "call" then
    return .call (← policy.toText)
  .error (.unknownStatement (← value.toText))

/-- Reads a statement in a room, as a condition is read. -/
def readWithin : Nat → Value → Except DeviceFault Statement
  | 0, _ => .error (.value .endless)
  | room + 1, value => do
      if let .text s := value then return ← readAction s
      let some guard ← value.fieldIfFound "if" | readCall value
      let entries ← value.fields
      let guard ← Condition.readWithin room guard
      let whenTrue ← (← block "then" entries).mapM (readWithin room)
      let whenFalse ← (← block "else" entries).mapM (readWithin room)
      return .branch guard whenTrue whenFalse

def read (value : Value) : Except DeviceFault Statement :=
  readFully readWithin value

end Statement

def RoutingPolicy.readListed (name : String) (value : Value) :
    Except DeviceFault RoutingPolicy := do
  let statements ← (← value.elements).mapM Statement.read
  return { name, statements }

/-- Reads a named routing policy; a value that counts as false gives one without
statements. -/
def RoutingPolicy.read (name : String) (value : Value) : Except DeviceFault RoutingPolicy :=
  RoutingPolicy.readListed name (if value.truthy then value else .list [])

end RoutingPlane
