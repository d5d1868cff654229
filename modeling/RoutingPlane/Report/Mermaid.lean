import RoutingPlane.Graph
import RoutingPlane.Text.CharacterClass

/-!
The diagram of a graph in Mermaid notation: a node for every device and a line
for every link, drawn once for its two directions. Links that cross a boundary
between autonomous systems are labelled, and sessions inside one are dotted.
-/

namespace RoutingPlane.Mermaid

open RoutingPlane.Text

def nodeId (name : String) : String :=
  String.ofList (name.toList.map fun c => if isAlphanumeric c then c else '_')

def nodeLine (name : String) : String :=
  "    " ++ nodeId name ++ "[" ++ name ++ "]"

/-- The two ends of an edge in order, if both are known. -/
def orderedEnds? (edge : EdgeKey) : Option (InterfaceRef × InterfaceRef) :=
  match edge.peer, edge.far with
  | some peer, some far =>
      let here : InterfaceRef := ⟨edge.router, edge.near⟩
      let there : InterfaceRef := ⟨peer, far⟩
      some (if here.notAfter there then (here, there) else (there, here))
  | _, _ => none

/-- What identifies a drawn line: the texts of its ends and its kind. -/
abbrev LineKey := String × String × Bool

/-- Whether an edge or its opposite direction is a session between autonomous
systems. -/
def isBoundary (graph : Graph) (edge : EdgeKey) : Bool :=
  crossesBoundary graph.reverse graph.external edge

def linkLine (graph : Graph) (edge : EdgeKey) (first second : InterfaceRef) : String :=
  let left := "    " ++ nodeId first.device
  let right := nodeId second.device
  let interfaces := first.interface ++ "-" ++ second.interface
  if edge.abstract then left ++ " -.-|iBGP| " ++ right
  else if isBoundary graph edge then left ++ " ---|eBGP " ++ interfaces ++ "| " ++ right
  else left ++ " ---|" ++ interfaces ++ "| " ++ right

/-- The lines of a list of edges, when some lines are drawn already. -/
def linkLines (graph : Graph) (drawn : List LineKey) : List EdgeKey → List String
  | [] => []
  | edge :: rest =>
      match orderedEnds? edge with
      | none => linkLines graph drawn rest
      | some (first, second) =>
          let key := (first.text, second.text, edge.abstract)
          if key ∈ drawn then linkLines graph drawn rest
          else linkLine graph edge first second :: linkLines graph (key :: drawn) rest

def lines (graph : Graph) : List String :=
  "graph LR" :: graph.devices.keys.map nodeLine ++
    linkLines graph [] (graph.edges.values.flatten.map Edge.key)

def diagram (graph : Graph) : String :=
  String.intercalate "\n" (lines graph)

end RoutingPlane.Mermaid
