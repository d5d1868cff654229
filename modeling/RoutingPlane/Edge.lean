import RoutingPlane.Device

/-!
Edges: one direction of a link between two devices. Two edges count as the same
if they agree on the names at both ends and on whether they are abstract.
-/

namespace RoutingPlane

/-- What identifies an edge. -/
structure EdgeKey where
  router : String
  /-- The name of the local interface. -/
  near : String
  peer : Option String
  /-- The name of the remote interface. -/
  far : Option String
  abstract : Bool
  deriving DecidableEq, Repr

structure Edge where
  router : String
  /-- The local interface. -/
  near : Interface
  /-- The remote device, if it is known. -/
  peer : Option String
  /-- The remote interface, if it is known. -/
  far : Option Interface
  /-- Whether the edge was made up for a session inside an autonomous system. -/
  abstract : Bool := false
  deriving Repr

def Edge.key (edge : Edge) : EdgeKey where
  router := edge.router
  near := edge.near.name
  peer := edge.peer
  far := edge.far.map Interface.name
  abstract := edge.abstract

namespace EdgeKey

def isDangling (key : EdgeKey) : Bool :=
  key.peer.isNone

def text (key : EdgeKey) : String :=
  key.router ++ "," ++ key.near ++ " --> " ++
    match key.far with
    | none => "_"
    | some far => key.peer.getD "None" ++ "," ++ far

end EdgeKey

/-- The opposite direction of an edge whose two ends are known. -/
def Edge.opposite? (edge : Edge) : Option Edge :=
  match edge.peer, edge.far with
  | some peer, some far => some
      { router := peer, near := far, peer := some edge.router, far := some edge.near,
        abstract := edge.abstract }
  | _, _ => none

end RoutingPlane
