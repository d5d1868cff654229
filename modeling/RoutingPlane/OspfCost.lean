import RoutingPlane.Fault
import RoutingPlane.Note
import RoutingPlane.Text.Split

/-!
The cost of interfaces in the OSPF process. A configured cost is kept. Without
one, interfaces of virtual networks take the cost of the settings, and all
others the whole part of the reference bandwidth over their own, but at least
one.
-/

namespace RoutingPlane

open RoutingPlane.Decimal

namespace OspfCost

def floorOf (x : Float) : Except ValueFault Int :=
  match Binary64.ofFloat x with
  | .finite value => .ok value.floor
  | .infinite _ => .error .infiniteInteger
  | .undefined => .error .undefinedInteger

/-- The largest whole number not above a quotient. That of whole numbers is
rounded once. -/
def floorQuotient (dividend divisor : Value) : Except ValueFault Int :=
  match dividend.whole?, divisor.whole? with
  | some m, some n =>
      match floorOfRatio? m n with
      | some floor => .ok floor
      | none => .error .hugeInteger
  | _, _ => do
      if dividend.isNumeric && divisor.isNumeric then
        floorOf ((← dividend.toFloat) / (← divisor.toFloat))
      else .error (.wrongKind .number)

def isVlan (options : Options) (name : Value) : Except ValueFault Bool := do
  let letters ← name.lowered
  return Text.begins (← options.vlanNameStart.lowered) letters

/-- The cost of an interface for which none is configured, given the bandwidth to
which it refers. -/
def derivedCost (device : String) (interface : Interface) (referenceBandwidth : Value)
    (options : Options) : Except Fault Value := do
  if ← isVlan options interface.nameValue then return options.vlanCost
  if !interface.bandwidth.truthy then
    .error (.configuration (.missingBandwidth device interface.name))
  return .int (max 1 (← floorQuotient referenceBandwidth interface.bandwidth))

def standardCost (device : String) (interface : Interface) (referenceBandwidth : Float)
    (options : Options) : Except Fault Value :=
  derivedCost device interface (Value.ofFloat 0 referenceBandwidth) options

def costOf (device : String) (process : OspfProcess) (options : Options)
    (interface : Interface) : Except Fault Value :=
  match interface.ospfCost with
  | .null => standardCost device interface process.referenceBandwidth options
  | cost => .ok cost

/-- The interfaces of a device that have a cost: the active ones if the process
runs, with the process. -/
def costed (device : Device) : List (OspfProcess × Interface) :=
  match device.ospf with
  | none => []
  | some process =>
      (device.interfaces.values.filter Interface.isActive).map fun interface => (process, interface)

def deviceCosts (options : Options) (router : String) (device : Device) :
    Except Fault (Table String Value) := do
  let costs ← (costed device).mapM fun entry => do
    let cost ← costOf router entry.1 options entry.2
    if !entry.2.nameValue.isKey then .error (.value (.wrongKind .key))
    return (entry.2.name, cost)
  return Table.ofList costs

def resolve (devices : Table String Device) (options : Options) :
    Except Fault (Table String (Table String Value)) := do
  let costs ← devices.entries.mapM fun entry => do
    let costs ← deviceCosts options entry.1 entry.2
    return (entry.1, costs)
  return Table.ofList costs

def derived (devices : Table String Device) : List (String × OspfProcess × Interface) :=
  devices.entries.flatMap fun entry =>
    ((costed entry.2).filter fun pair => pair.2.ospfCost.isNull).map fun pair =>
      (entry.1, pair)

/-- The notes on derived costs up to the first one that cannot be derived. -/
def derivedNotes (options : Options) :
    List (String × OspfProcess × Interface) → List Note
  | [] => []
  | (router, process, interface) :: rest =>
      match standardCost router interface process.referenceBandwidth options with
      | .ok cost => .costDefaulted router interface.name cost :: derivedNotes options rest
      | .error _ => []

def notes (devices : Table String Device) (options : Options) : List Note :=
  derivedNotes options (derived devices) ++
    match resolve devices options with
    | .ok _ => [.costsResolved (derived devices).length]
    | .error _ => []

end OspfCost

def areaIds (devices : Table String Device) : Table String (List Int) :=
  devices.mapValues fun _ device =>
    match device.ospf with
    | some process => process.areas.keys
    | none => []

end RoutingPlane
