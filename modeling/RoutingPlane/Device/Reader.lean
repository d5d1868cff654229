import RoutingPlane.Policy.Reader

/-!
Reading the configuration of a device from an untyped value. The parts are read
in a fixed order, interfaces first and policies last, and the first fault
decides.
-/

namespace RoutingPlane

/-- Reads a field that may be missing or empty. -/
def readOptional {α : Type} (name : String) (entries : List (Value × Value))
    (readValue : Value → Except ValueFault α) : Except ValueFault (Option α) :=
  match Value.fieldIn? name entries with
  | some value => if value.truthy then some <$> readValue value else .ok none
  | none => .ok none

/-- Reads a field that may be missing or null. -/
def readPresent {α : Type} (name : String) (entries : List (Value × Value))
    (readValue : Value → Except ValueFault α) : Except ValueFault (Option α) :=
  match Value.fieldIn? name entries with
  | some .null => .ok none
  | some value => some <$> readValue value
  | none => .ok none

/-- Whether a field counts as true; a missing one counts as given. -/
def flag (name : String) (standard : Bool) (entries : List (Value × Value)) : Bool :=
  match Value.fieldIn? name entries with
  | some value => value.truthy
  | none => standard

/-- The value of a field, null if it is missing. -/
def fieldOrNull (name : String) (entries : List (Value × Value)) : Value :=
  (Value.fieldIn? name entries).getD .null

def Interface.ofEntries (name : String) (entries : List (Value × Value)) :
    Except ValueFault Interface := do
  let address ← readOptional "prefix" entries InterfaceAddress.read
  let bandwidth ← readPresent "bandwidth" entries Value.toFloat
  let ospfCost ← readPresent "ospf_cost" entries Value.toInteger
  return {
    name, address
    bandwidth := bandwidth.elim .null (Value.ofFloat 0)
    ospfCost := ospfCost.elim .null .int
    active := .bool (flag "active" true entries)
    ospfEnabled := .bool (flag "ospf_enabled" false entries)
    loopback := .bool (flag "loopback" false entries) }

/-- Reads an interface; a value that counts as false gives one without settings. -/
def Interface.read (name : String) (value : Value) : Except ValueFault Interface := do
  Interface.ofEntries name (← value.fieldsOrNone)

def readInterfaces (entries : List (Value × Value)) : Except ValueFault (Table String Interface) := do
  let named ← entries.mapM fun entry => do
    let name ← entry.1.toText
    let interface ← Interface.read name entry.2
    return (name, interface)
  return Table.ofList named

def OspfArea.readMember (interfaces : Table String Interface) (area name : Value) :
    Except DeviceFault Interface :=
  match name with
  | .text s =>
      match interfaces.get? s with
      | some interface => .ok interface
      | none => unknown
  | _ => if name.isKey then unknown else .error (.value (.wrongKind .key))
where
  /-- The failure that tells the area and the missing member. -/
  unknown : Except DeviceFault Interface := do
    .error (.unknownMember (← area.toText) (← name.toText))

/-- Reads an area: its members first, then its number. -/
def OspfArea.read (interfaces : Table String Interface) (area members : Value) :
    Except DeviceFault OspfArea := do
  let names ← members.elementsOrNone
  let interfaces ← names.mapM (OspfArea.readMember interfaces area)
  let id ← area.toInteger
  return { id, interfaces }

def OspfProcess.read (interfaces : Table String Interface) (value : Value) :
    Except DeviceFault OspfProcess := do
  let entries ← value.fields
  let areaEntries ← (fieldOrNull "areas" entries).fieldsOrNone
  let areas ← areaEntries.mapM fun entry => OspfArea.read interfaces entry.1 entry.2
  let referenceBandwidth ←
    ((Value.fieldIn? "reference_bandwidth" entries).getD (.float 100000000.0)).toFloat
  return {
    referenceBandwidth
    areas := Table.ofList (areas.map fun area => (area.id, area))
    exportPolicy := fieldOrNull "export_policy" entries }

def BgpNeighbor.read (value : Value) : Except ValueFault BgpNeighbor := do
  let peers ← Network.read (← value.field "prefix")
  let entries ← value.fields
  let localAs ← readPresent "local_as" entries Value.toInteger
  let remoteAs ← readPresent "remote_as" entries Value.toInteger
  let localAddress ← readOptional "local_ip" entries Address.read
  let description ← ((Value.fieldIn? "description" entries).getD (.text "")).toText
  return {
    peers, localAs, remoteAs, localAddress, description
    reflectorClient := flag "route_reflector_client" false entries
    importPolicy := fieldOrNull "import_policy" entries
    exportPolicy := fieldOrNull "export_policy" entries }

def BgpProcess.read (value : Value) : Except ValueFault BgpProcess := do
  let entries ← value.fields
  let routerId ← readOptional "router_id" entries Address.read
  let neighbors ← (← (fieldOrNull "neighbors" entries).elementsOrNone).mapM BgpNeighbor.read
  return .ofNeighbors routerId neighbors

def StaticRoute.read (value : Value) : Except ValueFault StaticRoute := do
  let destination ← Network.read (← value.field "network")
  let entries ← value.fields
  let nextHopAddress ← readOptional "next_hop_ip" entries Address.read
  let distance ← ((Value.fieldIn? "admin_distance" entries).getD (.int 1)).toInteger
  return {
    destination, nextHopAddress, distance
    nextHopInterface := fieldOrNull "next_hop_interface" entries }

def readProcess {α : Type} (value : Value) (readValue : Value → Except DeviceFault α) :
    Except DeviceFault (Option α) :=
  if value.truthy then some <$> readValue value else .ok none

def Device.ofEntries (name : String) (entries : List (Value × Value)) :
    Except DeviceFault Device := do
  let interfaces ← readInterfaces (← (fieldOrNull "interfaces" entries).fieldsOrNone)
  let ospf ← readProcess (fieldOrNull "ospf" entries) (OspfProcess.read interfaces)
  let bgp ← readProcess (fieldOrNull "bgp" entries) fun value => BgpProcess.read value
  let routeValues ← (fieldOrNull "static_routes" entries).elementsOrNone
  let staticRoutes ← routeValues.mapM fun value => StaticRoute.read value
  let vendor ← ((Value.fieldIn? "vendor" entries).getD (.text "")).toText
  let policyEntries ← (fieldOrNull "routing_policies" entries).fieldsOrNone
  let policies ← policyEntries.mapM fun entry => do
    let policy ← RoutingPolicy.read (← entry.1.toText) entry.2
    return (policy.name, policy)
  return {
    name, interfaces, ospf, bgp, staticRoutes, vendor
    policies := Table.ofList policies }

/-- Reads the configuration of a device; a value that counts as false gives an
empty one. -/
def Device.read (name : String) (value : Value) : Except DeviceFault Device := do
  Device.ofEntries name (← value.fieldsOrNone)

end RoutingPlane
