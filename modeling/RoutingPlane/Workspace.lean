import RoutingPlane.Policy.EdgeUse

/-!
A snapshot under edit and the graph that was last built from it. The graph
refers to the devices and interfaces of the snapshot, so that a change to one
of them shows in the graph as well; all that was derived when the graph was
built stays as it was. Devices and interfaces that were removed or replaced
since are no longer shared, and the same holds for the members of areas.
-/

namespace RoutingPlane

structure Workspace where
  snapshot : Snapshot
  graph : Option Graph := none
  /-- The devices that the graph no longer shares with the snapshot. -/
  strayDevices : List String := []
  /-- The interfaces that the graph no longer shares with the snapshot. -/
  strayInterfaces : List InterfaceRef := []
  /-- The interfaces that areas no longer share with their devices. -/
  strayMembers : List InterfaceRef := []

inductive WorkspaceFault where
  /-- A name is not there. -/
  | unknownName
  /-- A device has no edge at a place. -/
  | noSuchEdge
  /-- No graph was built yet. -/
  | noGraph
  /-- What was to be set is derived from other settings. -/
  | derivedSetting
  | fault (fault : Fault)
  deriving Repr

/-- Any edit may fail as its parts do. -/
instance : MonadLift (Except Fault) (Except WorkspaceFault) where
  monadLift outcome := outcome.mapError .fault

def Interface.renamed (interface : Interface) (name : Value) : Interface :=
  match name with
  | .text s => { interface with name := s, nameGiven := none }
  | other => { interface with name := other.shown, nameGiven := some other }

/-- The interface after a value was put in the place of a setting. What is derived
from other settings cannot be set, and a setting that is none changes nothing. -/
def Interface.withSetting (interface : Interface) (setting : String) (value : Value) :
    Except WorkspaceFault Interface :=
  match setting with
  | "name" => .ok (interface.renamed value)
  | "prefix" =>
      if value.isNull then .ok { interface with address := none }
      else do
        let read : Except Fault InterfaceAddress := InterfaceAddress.read value
        return { interface with address := some (← read) }
  | "active" => .ok { interface with active := value }
  | "bandwidth" => .ok { interface with bandwidth := value }
  | "ospf_cost" => .ok { interface with ospfCost := value }
  | "ospf_enabled" => .ok { interface with ospfEnabled := value }
  | "loopback" => .ok { interface with loopback := value }
  | "kind" => .ok { interface with kind := .given value }
  | "address" => .error .derivedSetting
  | "network" => .error .derivedSetting
  | "is_abstract" => .error .derivedSetting
  | _ => .ok interface

/-- The area with one of its members replaced by an interface of the same place. -/
def OspfArea.refresh (area : OspfArea) (interface : Interface) : OspfArea :=
  { area with
    interfaces := area.interfaces.map fun member =>
      if member.place = interface.place then interface else member }

/-- The process with the members of its areas replaced by an interface of the
same place. -/
def OspfProcess.refresh (process : OspfProcess) (interface : Interface) : OspfProcess :=
  { process with areas := process.areas.mapValues fun _ area => area.refresh interface }

/-- The edge with the interfaces at its ends replaced by an interface to which
it refers. -/
def Edge.refresh (edge : Edge) (ref : InterfaceRef) (interface : Interface) : Edge :=
  if edge.abstract then edge
  else
    { edge with
      near :=
        if edge.router = ref.device ∧ edge.near.place = ref.interface then interface
        else edge.near
      far := edge.far.map fun far =>
        if edge.peer = some ref.device ∧ far.place = ref.interface then interface else far }

/-- The graph with the edges at an interface showing its present settings. -/
def Graph.refresh (graph : Graph) (ref : InterfaceRef) (interface : Interface) : Graph :=
  let change (edge : Edge) : Edge := edge.refresh ref interface
  { graph with
    edges := graph.edges.mapValues fun _ edges => edges.map change
    reverse := graph.reverse.refresh change change
    external := graph.external.refresh change id }

namespace Workspace

def device (workspace : Workspace) (name : String) : Except WorkspaceFault Device :=
  match workspace.snapshot.devices.get? name with
  | some device => .ok device
  | none => .error .unknownName

def interface (workspace : Workspace) (ref : InterfaceRef) : Except WorkspaceFault Interface := do
  let device ← workspace.device ref.device
  match device.interfaces.get? ref.interface with
  | some interface => return interface
  | none => .error .unknownName

def current (workspace : Workspace) : Except WorkspaceFault Graph :=
  match workspace.graph with
  | some graph => .ok graph
  | none => .error .noGraph

/-- Puts a changed device in its place, in the graph as well if it is shared. -/
def putDevice (workspace : Workspace) (device : Device) : Workspace :=
  let graph := workspace.graph.map fun graph =>
    if device.name ∈ workspace.strayDevices then graph
    else { graph with devices := graph.devices.modify device.name fun _ => device }
  { workspace with
    graph
    snapshot :=
      { workspace.snapshot with
        devices := workspace.snapshot.devices.put device.name device } }

def changeDevice (workspace : Workspace) (name : String)
    (change : Device → Except Fault Device) : Except WorkspaceFault Workspace := do
  let device ← workspace.device name
  let changed ← change device
  return workspace.putDevice changed

/-! ## Interfaces -/

/-- Changes the settings of an interface. The change shows wherever the
interface is shared. -/
def changeInterface (workspace : Workspace) (ref : InterfaceRef)
    (change : Interface → Except WorkspaceFault Interface) :
    Except WorkspaceFault (Workspace × Interface) := do
  let device ← workspace.device ref.device
  let interface ← workspace.interface ref
  let changed ← change interface
  let ospf :=
    if ref ∈ workspace.strayMembers then device.ospf
    else device.ospf.map fun process => process.refresh changed
  let moved := workspace.putDevice
    { device with interfaces := device.interfaces.put ref.interface changed, ospf }
  let isStray := ref.device ∈ workspace.strayDevices ∨ ref ∈ workspace.strayInterfaces
  let graph :=
    if isStray then moved.graph else moved.graph.map fun graph => graph.refresh ref changed
  return ({ moved with graph }, changed)

/-- Notes that the present interface of a name is not the one that areas and
the graph refer to. -/
def detach (workspace : Workspace) (ref : InterfaceRef) : Workspace :=
  { workspace with
    strayInterfaces := ref :: workspace.strayInterfaces
    strayMembers := ref :: workspace.strayMembers }

/-- Gives a device an interface, in place of one of the same name. -/
def addInterface (workspace : Workspace) (ref : InterfaceRef) (value : Value) :
    Except WorkspaceFault (Workspace × Interface) := do
  let entries ← (value.fields.mapError Fault.value : Except Fault _)
  let interface ←
    ((Interface.ofEntries ref.interface entries).mapError Fault.value : Except Fault _)
  let device ← workspace.device ref.device
  let moved := workspace.putDevice
    { device with interfaces := device.interfaces.put ref.interface interface }
  return (moved.detach ref, interface)

def removeInterface (workspace : Workspace) (ref : InterfaceRef) :
    Except WorkspaceFault (Workspace × Interface) := do
  let device ← workspace.device ref.device
  let interface ← workspace.interface ref
  let moved := workspace.putDevice
    { device with interfaces := device.interfaces.erase ref.interface }
  return (moved.detach ref, interface)

/-! ## Processes, routes and policies -/

/-- Gives a device an OSPF process, or none, whose areas refer to its present
interfaces. -/
def setOspf (workspace : Workspace) (name : String) (value : Option Value) :
    Except WorkspaceFault Workspace := do
  let moved ← workspace.changeDevice name fun device => do
    match value with
    | none => return { device with ospf := none }
    | some value =>
        let process ← OspfProcess.read device.interfaces value
        return { device with ospf := some process }
  return { moved with
    strayMembers := moved.strayMembers.filter fun ref => ref.device ≠ name }

def setBgp (workspace : Workspace) (name : String) (value : Option Value) :
    Except WorkspaceFault Workspace := do
  let read (value : Value) : Except Fault BgpProcess := BgpProcess.read value
  let bgp ← (value.mapM read : Except Fault _)
  workspace.changeDevice name fun device => .ok { device with bgp }

def setVendor (workspace : Workspace) (name vendor : String) :
    Except WorkspaceFault Workspace :=
  workspace.changeDevice name fun device => .ok { device with vendor }

def addRoute (workspace : Workspace) (name : String) (value : Value) :
    Except WorkspaceFault (Workspace × StaticRoute) := do
  let route ← ((StaticRoute.read value).mapError Fault.value : Except Fault _)
  let device ← workspace.device name
  return (workspace.putDevice { device with staticRoutes := device.staticRoutes ++ [route] }, route)

def clearRoutes (workspace : Workspace) (name : String) : Except WorkspaceFault Workspace :=
  workspace.changeDevice name fun device => .ok { device with staticRoutes := [] }

/-- Gives a device a policy, in place of one of the same name. -/
def setPolicy (workspace : Workspace) (name policyName : String) (value : Value) :
    Except WorkspaceFault (Workspace × RoutingPolicy) := do
  let policy ← ((RoutingPolicy.readListed policyName value).mapError Fault.devicePart : Except Fault _)
  let device ← workspace.device name
  return (workspace.putDevice { device with policies := device.policies.put policyName policy },
    policy)

def removePolicy (workspace : Workspace) (name policyName : String) :
    Except WorkspaceFault (Workspace × RoutingPolicy) := do
  let device ← workspace.device name
  match device.policies.get? policyName with
  | some policy =>
      return (workspace.putDevice { device with policies := device.policies.erase policyName },
        policy)
  | none => .error .unknownName

/-! ## Devices, links and settings -/

def replaceDevices (workspace : Workspace) (name : String) (devices : Table String Device) :
    Workspace :=
  { workspace with
    snapshot := { workspace.snapshot with devices }
    strayDevices := name :: workspace.strayDevices
    strayMembers := workspace.strayMembers.filter fun ref => ref.device ≠ name }

def addDevice (workspace : Workspace) (name : String) (value : Value) :
    Except WorkspaceFault Workspace := do
  let read : Except DeviceFault Device := do Device.ofEntries name (← value.fields)
  let device ← Snapshot.reportDevice name read
  return workspace.replaceDevices name (workspace.snapshot.devices.put name device)

def removeDevice (workspace : Workspace) (name : String) : Except WorkspaceFault Workspace := do
  let _ ← workspace.device name
  return workspace.replaceDevices name (workspace.snapshot.devices.erase name)

def setAdjacency (workspace : Workspace) (adjacency : Adjacency) : Workspace :=
  { workspace with snapshot := { workspace.snapshot with adjacency } }

def connect (adjacency : Adjacency) (source target : InterfaceRef) : Adjacency :=
  adjacency.put source ((adjacency.get? source).getD [] ++ [target])

def link (workspace : Workspace) (source target : InterfaceRef) (oneWay : Bool) : Workspace :=
  let forward := connect workspace.snapshot.adjacency source target
  workspace.setAdjacency (if oneWay then forward else connect forward target source)

/-- Forgets the interfaces next to an interface, and tells which ones they were. -/
def unlink (workspace : Workspace) (source : InterfaceRef) : Workspace × List InterfaceRef :=
  let adjacency := workspace.snapshot.adjacency
  (workspace.setAdjacency (adjacency.erase source), (adjacency.get? source).getD [])

def setOptions (workspace : Workspace) (options : Options) : Workspace :=
  { workspace with snapshot := { workspace.snapshot with options } }

/-! ## The graph -/

/-- Builds the graph anew. If this fails, the former graph stays. -/
def build (workspace : Workspace) (selection : Selection) :
    Except WorkspaceFault (Workspace × Graph) := do
  let graph ← workspace.snapshot.build selection
  let built : Workspace :=
    { workspace with graph := some graph, strayDevices := [], strayInterfaces := [] }
  return (built, graph)

/-- The graph with all that it is made of. This fails if nothing is found under the
names that the ends of the edge of a session have now. -/
def wholeGraph (workspace : Workspace) : Except WorkspaceFault Graph := do
  let graph ← workspace.current
  if graph.external.isCurrent && graph.internal.isCurrent then return graph
  else .error .unknownName

/-- The edge of a device at a place, counted from the end if negative. -/
def edgeAt (workspace : Workspace) (router : String) (place : Int) :
    Except WorkspaceFault Edge := do
  let graph ← workspace.current
  let edges := graph.edgesOf router
  let index := if place < 0 then place + edges.length else place
  if index < 0 then .error .noSuchEdge
  else
    match edges[index.toNat]? with
    | some edge => return edge
    | none => .error .noSuchEdge

/-- Whether a protocol runs over an edge of a device. The graph is asked only if the
edge does not settle it. -/
def isUsed (workspace : Workspace) (device : String) (protocol : Protocol) (edge : Edge) :
    Except WorkspaceFault Bool :=
  match edge.use protocol with
  | .settled isUsed => .ok isUsed
  | _ => do return (← workspace.current).isUsed device protocol edge

/-- The policy for routes received over an edge of a device. The graph is asked only
for sessions. -/
def importPolicy? (workspace : Workspace) (device : Device) (protocol : Protocol)
    (edge : EdgeKey) : Except WorkspaceFault (Option RoutingPolicy) :=
  match protocol with
  | .bgp => do
      let found : Except Fault (Option RoutingPolicy) :=
        (← workspace.current).importPolicy? device protocol edge
      found
  | _ => .ok none

/-- The policy for routes sent over an edge of a device. The graph is asked for
sessions, and for its settings. -/
def exportPolicy? (workspace : Workspace) (device : Device) (protocol : Protocol)
    (edge : EdgeKey) : Except WorkspaceFault (Option RoutingPolicy) :=
  match protocol with
  | .static => .ok none
  | .connected => .ok none
  | _ => do
      let found : Except Fault (Option RoutingPolicy) :=
        (← workspace.current).exportPolicy? device protocol edge
      found

end Workspace

end RoutingPlane
