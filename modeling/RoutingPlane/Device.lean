import RoutingPlane.Address.Printer
import RoutingPlane.Policy.Basic
import RoutingPlane.Table
import RoutingPlane.Value

/-!
The configuration of a network device: its interfaces, its routing processes,
its static routes and its routing policies.
-/

namespace RoutingPlane

/-- Whether an interface is configured on a device or made up to carry a
session inside an autonomous system. -/
inductive InterfaceKind where
  | concrete
  | abstract
  /-- A value was put in the place of the kind. -/
  | given (value : Value)
  deriving Repr

/-- An interface of a device. Its settings are values: those of a configuration
are truth values and numbers, but any value can be put in their place. -/
structure Interface where
  name : String
  /-- A value that is no text and was put in the place of the name, which then is
  what is shown of it. -/
  nameGiven : Option Value := none
  /-- The name under which a device holds the interface. It stays when the
  interface is renamed. -/
  place : String := name
  address : Option InterfaceAddress := none
  active : Value := .bool true
  /-- The bandwidth in bits per second, nothing if it is not known. -/
  bandwidth : Value := .null
  /-- The configured cost. If there is none, it is derived elsewhere. -/
  ospfCost : Value := .null
  ospfEnabled : Value := .bool false
  loopback : Value := .bool false
  kind : InterfaceKind := .concrete
  deriving Repr

def Interface.nameValue (interface : Interface) : Value :=
  interface.nameGiven.getD (.text interface.name)

def Interface.host? (interface : Interface) : Option Address :=
  interface.address.map InterfaceAddress.host

/-- The network to which an interface is connected. -/
def Interface.network? (interface : Interface) : Option Network :=
  interface.address.map InterfaceAddress.network

def Interface.isAbstract (interface : Interface) : Bool :=
  match interface.kind with
  | .abstract => true
  | _ => false

def Interface.isActive (interface : Interface) : Bool :=
  interface.active.truthy

def Interface.runsOspf (interface : Interface) : Bool :=
  interface.isActive && interface.ospfEnabled.truthy

def Interface.isLoopback (interface : Interface) : Bool :=
  interface.loopback.truthy

structure InterfaceRef where
  device : String
  interface : String
  deriving DecidableEq, Repr

def InterfaceRef.text (ref : InterfaceRef) : String :=
  ref.device ++ ":" ++ ref.interface

/-- A configured static route. The interface of its next hop is a value as it
was configured, nothing if there is none. -/
structure StaticRoute where
  destination : Network
  nextHopAddress : Option Address := none
  nextHopInterface : Value := .null
  distance : Int := 1
  deriving Repr

namespace StaticRoute

/-- The next hop as it is shown: an interface before an address. -/
def nextHop (route : StaticRoute) : Value :=
  if route.nextHopInterface.truthy then route.nextHopInterface
  else
    match route.nextHopAddress with
    | some address => .text address.text
    | none => .text "none"

def same (left right : StaticRoute) : Bool :=
  decide (left.destination = right.destination) &&
    decide (left.nextHopAddress = right.nextHopAddress) &&
    left.nextHopInterface.same right.nextHopInterface &&
    decide (left.distance = right.distance)

end StaticRoute

structure OspfArea where
  id : Int
  interfaces : List Interface := []
  deriving Repr

structure OspfProcess where
  /-- The bandwidth in bits per second to which default costs refer. -/
  referenceBandwidth : Float := 100000000.0
  areas : Table Int OspfArea := .empty
  /-- The name of the policy applied on export, as configured. -/
  exportPolicy : Value := .null

structure BgpNeighbor where
  /-- The configured peers; a single peer if the network is a single address. -/
  peers : Network
  localAs : Option Int := none
  remoteAs : Option Int := none
  /-- The local address of the session. -/
  localAddress : Option Address := none
  reflectorClient : Bool := false
  /-- The name of the policy applied on import, as configured. -/
  importPolicy : Value := .null
  /-- The name of the policy applied on export, as configured. -/
  exportPolicy : Value := .null
  description : String := ""
  deriving Repr

namespace BgpNeighbor

def address? (neighbor : BgpNeighbor) : Option Address :=
  if neighbor.peers.isHost then some neighbor.peers.base else none

/-- Whether both ends are known to lie in one autonomous system. -/
def isInternal (neighbor : BgpNeighbor) : Bool :=
  neighbor.localAs.isSome && decide (neighbor.localAs = neighbor.remoteAs)

end BgpNeighbor

structure BgpProcess where
  routerId : Option Address := none
  neighbors : Table Network BgpNeighbor := .empty
  /-- Every neighbor statement stands under its own network. -/
  keyed : ∀ entry ∈ neighbors.entries, entry.2.peers = entry.1 := by nofun

namespace BgpProcess

/-- The process with some neighbor statements, the last one for each network. -/
def ofNeighbors (routerId : Option Address) (statements : List BgpNeighbor) : BgpProcess where
  routerId
  neighbors := Table.ofList (statements.map fun statement => (statement.peers, statement))
  keyed := by
    intro entry isEntry
    obtain ⟨statement, _, rfl⟩ := List.mem_map.1 (Table.mem_of_mem_ofList isEntry)
    rfl

theorem peers_of_get? (process : BgpProcess) {peers : Network} {neighbor : BgpNeighbor}
    (found : process.neighbors.get? peers = some neighbor) : neighbor.peers = peers :=
  process.keyed _ (Table.mem_entries_of_get? found)

end BgpProcess

structure Device where
  name : String
  interfaces : Table String Interface := .empty
  ospf : Option OspfProcess := none
  bgp : Option BgpProcess := none
  staticRoutes : List StaticRoute := []
  policies : Table String RoutingPolicy := .empty
  vendor : String := ""

/-- The interfaces to which an interface is directly connected. -/
abbrev Adjacency := Table InterfaceRef (List InterfaceRef)

end RoutingPlane
