import RoutingPlane.Address.Basic

/-!
Routing policies: named lists of statements. A statement decides about a route,
runs another policy or branches on a condition; a condition may run another
policy as well.
-/

namespace RoutingPlane

inductive RouteSource where
  | bgp
  | ibgp
  | ospf
  | static
  | connected
  | aggregate
  deriving DecidableEq, Repr

/-- A network together with the accepted lengths of its parts. -/
structure NetworkRange where
  network : Network
  shortest : Int
  longest : Int
  deriving DecidableEq, Repr

/-- The range that holds a network and none of its parts. -/
def NetworkRange.exact (network : Network) : NetworkRange where
  network := network
  shortest := network.length
  longest := network.length

/-- A set of networks, given in place or by the name of a list elsewhere. -/
inductive NetworkSet where
  | ranges (members : List NetworkRange)
  | named (name : String)
  deriving DecidableEq, Repr

inductive Condition where
  /-- The destination lies in a set. -/
  | within (set : NetworkSet)
  | learnedFrom (source : RouteSource)
  | not (condition : Condition)
  | all (conditions : List Condition)
  | any (conditions : List Condition)
  /-- Another policy accepts the route. -/
  | call (policy : String)
  deriving Inhabited, Repr

inductive Action where
  | accept
  | reject
  /-- Goes back to the policy that called. -/
  | giveBack
  deriving DecidableEq, Repr

inductive Statement where
  | act (action : Action)
  | call (policy : String)
  | branch (guard : Condition) (whenTrue whenFalse : List Statement)
  deriving Inhabited, Repr

structure RoutingPolicy where
  name : String
  statements : List Statement
  deriving Repr

namespace RouteSource

def every : List RouteSource :=
  [bgp, ibgp, ospf, static, connected, aggregate]

def word : RouteSource → String
  | bgp => "bgp"
  | ibgp => "ibgp"
  | ospf => "ospf"
  | static => "static"
  | connected => "connected"
  | aggregate => "aggregate"

def ofWord? (word : String) : Option RouteSource :=
  every.find? fun source => source.word == word

end RouteSource

namespace Action

def every : List Action :=
  [accept, reject, giveBack]

def word : Action → String
  | accept => "accept"
  | reject => "reject"
  | giveBack => "return"

def ofWord? (word : String) : Option Action :=
  every.find? fun action => action.word == word

end Action

end RoutingPlane
