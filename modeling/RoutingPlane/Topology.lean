import RoutingPlane.EdgeMap
import RoutingPlane.Note

/-!
Topology: the directed edges between devices, inferred from their interfaces
and the adjacency relation. Every interface with an address has an edge for
each of its at most two neighbors; an interface without neighbors, or with too
many to tell which one is its peer, has one dangling edge.
-/

namespace RoutingPlane

/-- The most neighbors of an interface for which its peers are told apart. -/
def maxSegmentEnds : Nat := 2

/-- The interface that a reference names. -/
def interfaceAt? (devices : Table String Device) (ref : InterfaceRef) : Option Interface :=
  match devices.get? ref.device with
  | some device => device.interfaces.get? ref.interface
  | none => none

def InterfaceRef.notAfter (left right : InterfaceRef) : Bool :=
  Text.comesBefore left.device right.device ||
    (decide (left.device = right.device) && Text.notAfter left.interface right.interface)

structure Topology where
  /-- The edges of every device, in the order of its interfaces. -/
  edges : Table String (List Edge)
  /-- The opposite direction of edges. -/
  reverse : EdgeMap Edge
  /-- The names of the devices next to every device. -/
  neighbors : Table String (List String)

namespace Topology

def ends (devices : Table String Device) (adjacency : Adjacency) (ref : InterfaceRef) :
    List (InterfaceRef × Interface) :=
  let listed := (adjacency.get? ref).getD []
  let found := listed.filterMap fun other =>
    (interfaceAt? devices other).map fun interface => (other, interface)
  found.mergeSort fun left right => left.1.notAfter right.1

def danglingEdge (router : String) (interface : Interface) : Edge where
  router := router
  near := interface
  peer := none
  far := none

def linkEdge (router : String) (near : Interface) (peer : String) (far : Interface) : Edge where
  router := router
  near := near
  peer := some peer
  far := some far

def edgesFrom (devices : Table String Device) (adjacency : Adjacency) (router name : String)
    (interface : Interface) : List Edge :=
  if interface.address.isNone then []
  else
    let found := ends devices adjacency ⟨router, name⟩
    if found.isEmpty || decide (maxSegmentEnds < found.length) then
      [danglingEdge router interface]
    else
      (found.filter fun other => other.1.device ≠ router).map fun other =>
        linkEdge router interface other.1.device other.2

def edgesOf (devices : Table String Device) (adjacency : Adjacency) (router : String)
    (device : Device) : List Edge :=
  device.interfaces.entries.flatMap fun entry =>
    edgesFrom devices adjacency router entry.1 entry.2

def reversePairs (edge : Edge) : List (Edge × Edge) :=
  match edge.opposite? with
  | some opposite => [(edge, opposite), (opposite, edge)]
  | none => []

/-- Infers the topology of a network. -/
def infer (devices : Table String Device) (adjacency : Adjacency) : Topology :=
  let edges := devices.mapValues (edgesOf devices adjacency)
  { edges
    reverse := EdgeMap.ofList (edges.values.flatten.flatMap reversePairs)
    neighbors := edges.mapValues fun _ listed => (listed.filterMap Edge.peer).eraseDups }

def crowdedNotes (devices : Table String Device) (adjacency : Adjacency) : List Note :=
  devices.entries.flatMap fun entry =>
    entry.2.interfaces.entries.filterMap fun named =>
      let count := (ends devices adjacency ⟨entry.1, named.1⟩).length
      if named.2.address.isSome && decide (maxSegmentEnds < count) then
        some (.crowdedSegment entry.1 named.1 count)
      else none

def notes (devices : Table String Device) (adjacency : Adjacency) : List Note :=
  let topology := infer devices adjacency
  crowdedNotes devices adjacency ++
    [.topologyInferred topology.edges.size topology.edges.values.flatten.length
      (topology.reverse.size / 2)]

end Topology

end RoutingPlane
