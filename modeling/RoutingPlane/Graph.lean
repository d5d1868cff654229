import RoutingPlane.Bgp.External
import RoutingPlane.Bgp.Internal
import RoutingPlane.Domains
import RoutingPlane.OspfCost
import RoutingPlane.Protocol
import RoutingPlane.RouteBinding
import RoutingPlane.Snapshot
import RoutingPlane.Topology

/-!
The graph of a network: its edges, costs, bound routes, sessions, reflectors
and domains, built from the configuration of the selected devices. A graph is
built completely or not at all, and the first fault decides.
-/

namespace RoutingPlane

inductive Selection where
  | all
  | only (names : List String)
  /-- A text where a list is expected. -/
  | text (given : String)
  deriving DecidableEq, Repr

structure Graph where
  options : Options
  /-- The devices that the graph models. -/
  devices : Table String Device
  /-- The edges of every device, concrete ones before abstract ones. -/
  edges : Table String (List Edge)
  /-- The opposite direction of edges. -/
  reverse : EdgeMap Edge
  neighbors : Table String (List String)
  /-- The costs of the interfaces of every device. -/
  costs : Table String (Table String Value)
  /-- The static routes that use each interface of every device. -/
  bindings : Table String RouteTable
  /-- The sessions between autonomous systems. -/
  external : EdgeMap BgpNeighbor
  /-- The sessions inside autonomous systems. -/
  internal : EdgeMap BgpNeighbor
  reflectorOf : Table String String
  clients : Table String (List String)
  originatorIds : Table String Nat
  areaIds : Table String (List Int)
  /-- The members of every domain, by its number. -/
  domains : List (List String)

namespace Graph

def selected (devices : Table String Device) :
    Selection → Except ConfigurationFault (Table String Device)
  | .all => .ok devices
  | .only names => .ok (devices.filterKeys fun name => names.contains name)
  | .text given => .error (.selectionIsText given)

def missing (devices : Table String Device) : Selection → List String
  | .only names =>
      Text.sortedBy id ((names.eraseDups).filter fun name => !devices.contains name)
  | _ => []

/-- The edges of a topology followed by those of sessions. -/
def allEdges (devices : Table String Device) (concrete abstract : Table String (List Edge)) :
    Table String (List Edge) :=
  devices.mapValues fun router _ =>
    (concrete.get? router).getD [] ++ (abstract.get? router).getD []

def ofDevices (devices : Table String Device) (adjacency : Adjacency) (options : Options) :
    Except Fault Graph := do
  let topology := Topology.infer devices adjacency
  let costs ← OspfCost.resolve devices options
  let bindings ← RouteBinding.resolve devices topology.edges options
  let external := ExternalSessions.resolve devices topology.edges
  let internal ← InternalSessions.resolve devices options
  let edges := allEdges devices topology.edges internal.edges
  let reverse := topology.reverse.putAll internal.reverse.entries
  return {
    options, devices, edges, reverse, costs, bindings, external
    neighbors := topology.neighbors
    internal := internal.sessions
    reflectorOf := internal.reflectorOf
    clients := internal.clients
    originatorIds := internal.originatorIds
    areaIds := RoutingPlane.areaIds devices
    domains := partitionDomains devices.keys edges reverse external }

/-- Builds the graph of the selected devices. -/
def build (devices : Table String Device) (adjacency : Adjacency) (selection : Selection)
    (options : Options) : Except Fault Graph := do
  let modelled ← selected devices selection
  ofDevices modelled adjacency options

/-! ## Queries -/

def edgeCount (graph : Graph) : Nat :=
  graph.edges.values.flatten.length

/-- The edges of a device; none if it is not modelled. -/
def edgesOf (graph : Graph) (router : String) : List Edge :=
  (graph.edges.get? router).getD []

def costOf? (graph : Graph) (router interface : String) : Option Value :=
  match graph.costs.get? router with
  | some costs => costs.get? interface
  | none => none

def domainOf (graph : Graph) (router : String) : Except ConfigurationFault Nat :=
  match graph.domains.findIdx? fun domain => domain.contains router with
  | some number => .ok number
  | none => .error (.unknownDevice router)

def domainMembers (graph : Graph) (router : String) : Except ConfigurationFault (List String) := do
  let number ← graph.domainOf router
  return (graph.domains[number]?).getD []

def peerType (graph : Graph) (edge : EdgeKey) : Except ConfigurationFault PeerType :=
  PeerType.across edge graph.external graph.internal graph.clients

def neighborOver? (graph : Graph) (edge : EdgeKey) : Option BgpNeighbor :=
  if edge.abstract then graph.internal.get? edge else graph.external.get? edge

/-- Whether an edge may lead to an end host: it has no known peer, or the peer
is a host, and no session between autonomous systems runs over it. -/
def leadsToHost (graph : Graph) (edge : EdgeKey) : Bool :=
  if graph.external.contains edge then false
  else
    match edge.peer with
    | none => true
    | some peer =>
        match graph.devices.get? peer with
        | some device => graph.options.hostVendor.isText device.vendor
        | none => false

def summary (graph : Graph) : String :=
  "NetworkGraph(devices=" ++ toString graph.devices.size ++ ", edges=" ++
    toString graph.edgeCount ++ ")"

/-! ## Notes -/

/-- What is noted while the graph of modelled devices is built, up to the first
fault. -/
def ofDevicesNotes (devices : Table String Device) (adjacency : Adjacency) (options : Options) :
    List Note :=
  let topology := Topology.infer devices adjacency
  Topology.notes devices adjacency ++ OspfCost.notes devices options ++
    if (OspfCost.resolve devices options).toOption.isNone then []
    else
      RouteBinding.notes devices topology.edges options ++
        match ofDevices devices adjacency options with
        | .error _ => []
        | .ok graph =>
            ExternalSessions.notes devices topology.edges ++ InternalSessions.notes devices ++
              domainNotes devices.keys graph.domains ++
              [.graphBuilt graph.devices.size graph.edgeCount graph.external.size
                graph.internal.size graph.domains.length]

def buildNotes (devices : Table String Device) (adjacency : Adjacency) (selection : Selection)
    (options : Options) : List Note :=
  let absent := missing devices selection
  match selected devices selection with
  | .error _ => []
  | .ok modelled =>
      (if absent.isEmpty then [] else [.devicesMissing absent]) ++
        ofDevicesNotes modelled adjacency options

end Graph

/-- Builds the graph of a snapshot. -/
def Snapshot.build (snapshot : Snapshot) (selection : Selection) : Except Fault Graph :=
  Graph.build snapshot.devices snapshot.adjacency selection snapshot.options

def Snapshot.buildNotes (snapshot : Snapshot) (selection : Selection) : List Note :=
  Graph.buildNotes snapshot.devices snapshot.adjacency selection snapshot.options

end RoutingPlane
