import RoutingPlane.EdgeMap
import RoutingPlane.Note

/-!
Sessions between autonomous systems. Such a session runs over the edge whose
local network holds the address of an external neighbor.
-/

namespace RoutingPlane.ExternalSessions

/-- The single external peers of a device, in the order of their statements. -/
def externalNeighbors (device : Device) : List BgpNeighbor :=
  match device.bgp with
  | some process =>
      process.neighbors.values.filter fun neighbor =>
        !neighbor.isInternal && neighbor.address?.isSome
  | none => []

def liesIn (network : Network) (neighbor : BgpNeighbor) : Bool :=
  match neighbor.address? with
  | some address => network.contains address
  | none => false

def neighborOver? (device : Device) (edge : Edge) : Option BgpNeighbor :=
  match edge.abstract, edge.near.network? with
  | false, some network => (externalNeighbors device).find? (liesIn network)
  | _, _ => none

/-- The sessions of a device over a list of edges, each with its edge. -/
def sessionsOver (device : Device) (edges : List Edge) : List (Edge × BgpNeighbor) :=
  edges.filterMap fun edge =>
    (neighborOver? device edge).map fun neighbor => (edge, neighbor)

/-- The sessions of all devices, in the order in which they are found. -/
def found (devices : Table String Device) (edges : Table String (List Edge)) :
    List (Edge × BgpNeighbor) :=
  devices.entries.flatMap fun entry =>
    sessionsOver entry.2 ((edges.get? entry.1).getD [])

def resolve (devices : Table String Device) (edges : Table String (List Edge)) :
    EdgeMap BgpNeighbor :=
  EdgeMap.ofList (found devices edges)

def notes (devices : Table String Device) (edges : Table String (List Edge)) : List Note :=
  ((found devices edges).map fun session =>
      .externalSession session.1.key session.2.address?) ++
    [.externalResolved (resolve devices edges).size]

end RoutingPlane.ExternalSessions
