import RoutingPlane.Graph

/-!
The dump of a graph: a text for readers that lists its edges, its sessions and
its bound routes, each in order.
-/

namespace RoutingPlane.Graph

def dumpRule : String :=
  String.ofList (List.replicate 55 '=')

def edgeLine (edge : Edge) : String :=
  "  edge from: " ++ edge.near.name ++ " to: " ++
    match edge.far with
    | none => "null"
    | some far => edge.peer.getD "None" ++ "," ++ far.name

def edgeLines (graph : Graph) : List String :=
  (Text.sortedBy Prod.fst graph.edges.entries).flatMap fun entry =>
    ("Router: " ++ entry.1) :: entry.2.map edgeLine

/-- The lines of sessions, with what is shown of their neighbors: those that are
found under the keys that the edges have now. -/
def sessionLines (sessions : EdgeMap BgpNeighbor) (shown : BgpNeighbor → String) :
    List String :=
  (Text.sortedBy EdgeKey.text (sessions.entries.map fun entry => entry.1.key)).filterMap
    fun edge => (sessions.get? edge).map fun neighbor =>
      "Edge: " ++ edge.text ++ " (" ++ shown neighbor ++ ")"

def routeLines (graph : Graph) : List String :=
  (Text.sortedBy Prod.fst graph.bindings.entries).flatMap fun device =>
    (Text.sortedBy Prod.fst device.2.entries).flatMap fun interface =>
      interface.2.map fun route =>
        "Router: " ++ device.1 ++ ", Interface: " ++ interface.1 ++ " --> " ++
          route.destination.text

def dumpLines (graph : Graph) : List String :=
  dumpRule :: "---------- Router to edges map ----------" :: graph.edgeLines ++
    "---------------- eBGP Neighbors ----------------" ::
      sessionLines graph.external (fun neighbor => addressText neighbor.address?) ++
    "---------------- iBGP Neighbors ----------------" ::
      sessionLines graph.internal (fun neighbor => neighbor.peers.text) ++
    "---------- Static Routes by Interface ----------" :: graph.routeLines ++ [dumpRule]

def dump (graph : Graph) : String :=
  String.intercalate "\n" graph.dumpLines ++ "\n"

end RoutingPlane.Graph
