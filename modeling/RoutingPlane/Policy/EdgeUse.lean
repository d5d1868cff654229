import RoutingPlane.Graph
import RoutingPlane.Policy.Origination

/-!
Which protocols run over an edge of a graph, and which policies apply to the
routes that are received or sent over it.
-/

namespace RoutingPlane

/-- The setting that decides whether an interface can carry a protocol. -/
def Interface.setting (interface : Interface) (protocol : Protocol) : Value :=
  match protocol with
  | .ospf => if interface.isActive then interface.ospfEnabled else interface.active
  | _ => interface.active

def Interface.carries (interface : Interface) (protocol : Protocol) : Bool :=
  (interface.setting protocol).truthy

inductive EdgeUse where
  /-- The edge itself. -/
  | settled (isUsed : Bool)
  /-- The routes that are bound to its local interface. -/
  | byRoutes
  /-- The session across it. -/
  | bySession
  deriving DecidableEq, Repr

/-- What decides whether a protocol runs over an edge. The first rule that
applies counts: an inactive interface carries nothing, an abstract edge sessions
only, a loopback its own network only, and OSPF needs a peer. -/
def Edge.use (edge : Edge) (protocol : Protocol) : EdgeUse :=
  if !edge.near.carries protocol then .settled false
  else if edge.abstract || edge.near.isAbstract then .settled (decide (protocol = .bgp))
  else if edge.near.isLoopback then .settled (decide (protocol = .connected))
  else
    match protocol with
    | .ospf => .settled edge.peer.isSome
    | .static => .byRoutes
    | .bgp => .bySession
    | .connected => .settled true

namespace Graph

def hasRouteOn (graph : Graph) (device interface : String) : Bool :=
  match graph.bindings.get? device with
  | some bound => !((bound.get? interface).getD []).isEmpty
  | none => false

def hasSession (graph : Graph) (edge : EdgeKey) : Bool :=
  graph.external.contains edge || graph.internal.contains edge

def isUsed (graph : Graph) (device : String) (protocol : Protocol) (edge : Edge) : Bool :=
  match edge.use protocol with
  | .settled isUsed => isUsed
  | .byRoutes => graph.hasRouteOn device edge.near.name
  | .bySession => graph.hasSession edge.key

def importPolicy? (graph : Graph) (device : Device) (protocol : Protocol) (edge : EdgeKey) :
    Except ValueFault (Option RoutingPolicy) :=
  match protocol with
  | .bgp =>
      match graph.neighborOver? edge with
      | some neighbor => device.policyNamed? neighbor.importPolicy
      | none => .ok none
  | _ => .ok none

def exportPolicy? (graph : Graph) (device : Device) (protocol : Protocol) (edge : EdgeKey) :
    Except ValueFault (Option RoutingPolicy) :=
  match protocol with
  | .ospf => device.commonPolicy? .ospf graph.options
  | .bgp =>
      match graph.neighborOver? edge with
      | some neighbor => device.policyNamed? neighbor.exportPolicy
      | none => .ok none
  | _ => .ok none

end Graph

end RoutingPlane
