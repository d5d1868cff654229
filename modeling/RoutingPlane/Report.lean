import RoutingPlane.Graph.Dump
import RoutingPlane.Report.Mermaid

/-!
The report on a graph: rows for its devices, edges, sessions, reflectors,
domains and bound routes, together with its dump and its diagram. Whole numbers
are written with all their digits here: the limit on digits that reading a
configuration keeps to is set aside in reports.
-/

namespace RoutingPlane

structure DeviceRow where
  name : String
  vendor : String
  interfaces : Nat
  edges : Nat
  neighbors : String
  areas : String
  domain : Nat
  originatorId : Option Nat
  deriving DecidableEq, Repr

/-- The row of an edge. What is not known is left empty. -/
structure EdgeRow where
  router : String
  interface : String
  peer : String
  peerInterface : String
  abstract : Bool
  leadsToHost : Bool
  reverse : String
  deriving DecidableEq, Repr

structure SessionRow where
  kind : String
  edge : String
  neighbor : String
  peerType : PeerType
  importPolicy : Value
  exportPolicy : Value
  deriving Repr

structure ReflectorRow where
  reflector : String
  clients : String
  deriving DecidableEq, Repr

structure DomainRow where
  id : Nat
  members : String
  deriving DecidableEq, Repr

structure RouteRow where
  router : String
  interface : String
  network : String
  nextHop : Value
  deriving Repr

structure Report where
  title : String
  devices : List DeviceRow
  edges : List EdgeRow
  sessions : List SessionRow
  reflectors : List ReflectorRow
  domains : List DomainRow
  routes : List RouteRow
  dump : String
  diagram : String

namespace Report

def standardTitle : String :=
  "Control-Plane Graph Report"

/-- Texts in order with commas between them. -/
def listing (texts : List String) : String :=
  String.intercalate ", " (Text.sortedBy id texts)

/-- Whole numbers in order with commas between them. -/
def numberListing (numbers : List Int) : String :=
  String.intercalate ", "
    ((numbers.mergeSort fun left right => decide (left ≤ right)).map toString)

/-- A value, left empty if it counts as false. -/
def orEmpty (value : Value) : Value :=
  if value.truthy then value else .text ""

def deviceRow (graph : Graph) (name : String) (device : Device) :
    Except ConfigurationFault DeviceRow := do
  let domain ← graph.domainOf name
  return {
    name, domain
    vendor := if device.vendor = "" then "-" else device.vendor
    interfaces := device.interfaces.size
    edges := (graph.edgesOf name).length
    neighbors := listing ((graph.neighbors.get? name).getD [])
    areas := numberListing ((graph.areaIds.get? name).getD [])
    originatorId := graph.originatorIds.get? name }

def edgeRow (graph : Graph) (router : String) (edge : EdgeKey) : EdgeRow where
  router := router
  interface := edge.near
  peer := edge.peer.getD ""
  peerInterface := edge.far.getD ""
  abstract := edge.abstract
  leadsToHost := graph.leadsToHost edge
  reverse := ((graph.reverse.get? edge).map fun opposite => opposite.key.text).getD ""

def sessionRow (graph : Graph) (kind : String) (edge : EdgeKey) (neighbor : BgpNeighbor) :
    Except ConfigurationFault SessionRow := do
  let peerType ← graph.peerType edge
  return {
    kind, peerType
    edge := edge.text
    neighbor := neighbor.peers.text
    importPolicy := orEmpty neighbor.importPolicy
    exportPolicy := orEmpty neighbor.exportPolicy }

def sessionRows (graph : Graph) (kind : String) (sessions : EdgeMap BgpNeighbor) :
    Except ConfigurationFault (List SessionRow) :=
  sessions.entries.mapM fun entry => sessionRow graph kind entry.1.key entry.2

def reflectorRows (graph : Graph) : List ReflectorRow :=
  graph.clients.entries.filterMap fun entry =>
    if entry.2.isEmpty then none
    else some { reflector := entry.1, clients := listing entry.2 }

def domainRows (graph : Graph) : List DomainRow :=
  graph.domains.zipIdx.map fun numbered => { id := numbered.2, members := listing numbered.1 }

def routeRows (graph : Graph) : List RouteRow :=
  graph.bindings.entries.flatMap fun device =>
    device.2.entries.flatMap fun interface =>
      interface.2.map fun route =>
        { router := device.1, interface := interface.1, network := route.destination.text,
          nextHop := route.nextHop }

def collect (title : String) (graph : Graph) : Except ConfigurationFault Report := do
  let devices ← graph.devices.entries.mapM fun entry => deviceRow graph entry.1 entry.2
  let external ← sessionRows graph "eBGP" graph.external
  let internal ← sessionRows graph "iBGP" graph.internal
  return {
    title, devices
    edges := graph.devices.keys.flatMap fun name =>
      (graph.edgesOf name).map fun edge => edgeRow graph name edge.key
    sessions := external ++ internal
    reflectors := reflectorRows graph
    domains := domainRows graph
    routes := routeRows graph
    dump := graph.dump
    diagram := Mermaid.diagram graph }

def edgeCount (report : Report) : Nat :=
  report.edges.length

def danglingCount (report : Report) : Nat :=
  (report.edges.filter fun row => row.peer == "").length

end Report

end RoutingPlane
