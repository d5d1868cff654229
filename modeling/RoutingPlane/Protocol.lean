import RoutingPlane.EdgeMap
import RoutingPlane.Fault
import RoutingPlane.Text.Lowercase

/-!
The protocols whose use of an edge can be asked for, and the relations of a
device to its peer across a session.
-/

namespace RoutingPlane

inductive Protocol where
  | ospf
  | bgp
  | static
  | connected
  deriving DecidableEq, Repr

inductive PeerType where
  | external
  | toReflector
  | toClient
  | toNonclient
  deriving DecidableEq, Repr

namespace Protocol

def every : List Protocol :=
  [ospf, bgp, static, connected]

def word : Protocol → String
  | ospf => "ospf"
  | bgp => "bgp"
  | static => "static"
  | connected => "connected"

def read (value : Value) : Except ConfigurationFault Protocol :=
  let lowered := Text.lowercase value.shown
  match every.find? fun protocol => protocol.word == lowered with
  | some protocol => .ok protocol
  | none => .error (.unknownProtocol value.shown)

end Protocol

def PeerType.word : PeerType → String
  | external => "ebgp"
  | toReflector => "to-rr"
  | toClient => "to-client"
  | toNonclient => "to-nonclient"

def isClient (clients : Table String (List String)) (reflector client : String) : Bool :=
  ((clients.get? reflector).getD []).contains client

/-- The relation across an edge, given the sessions and the clients of every
reflector. -/
def PeerType.across {α β : Type} (edge : EdgeKey) (external : EdgeMap α)
    (internal : EdgeMap β) (clients : Table String (List String)) :
    Except ConfigurationFault PeerType :=
  if external.contains edge then .ok .external
  else if internal.contains edge then
    match edge.peer with
    | some peer =>
        if isClient clients peer edge.router then .ok .toReflector
        else if isClient clients edge.router peer then .ok .toClient
        else .ok .toNonclient
    | none => .ok .toNonclient
  else .error (.noSession edge)

end RoutingPlane
