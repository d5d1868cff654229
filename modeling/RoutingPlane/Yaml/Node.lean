import RoutingPlane.Yaml.Tag

/-!
The nodes of a document. They are numbered in the order in which they begin, and
a collection names its parts by their numbers; so a node can be a part of
several collections, and even of itself.
-/

namespace RoutingPlane.Yaml

/-- What a node holds. The parts of a collection are given by their numbers. -/
inductive Content where
  | scalar (text : String)
  | sequence (items : List Nat)
  | mapping (entries : List (Nat × Nat))
  deriving DecidableEq, Inhabited, Repr

structure Node where
  tag : Tag
  content : Content
  deriving DecidableEq, Repr

abbrev Nodes := Array Node

namespace Nodes

def setContent (nodes : Nodes) (number : Nat) (content : Content) : Nodes :=
  nodes.modify number fun node => { node with content }

def setTag (nodes : Nodes) (number : Nat) (tag : Tag) : Nodes :=
  nodes.modify number fun node => { node with tag }

def hasTag (nodes : Nodes) (tag : Tag) (number : Nat) : Bool :=
  nodes[number]?.any fun node => node.tag = tag

def entries? (nodes : Nodes) (number : Nat) : Option (List (Nat × Nat)) :=
  match nodes[number]? with
  | some { content := .mapping entries, .. } => some entries
  | _ => none

def items? (nodes : Nodes) (number : Nat) : Option (List Nat) :=
  match nodes[number]? with
  | some { content := .sequence items, .. } => some items
  | _ => none

end Nodes

/-- A document: its nodes, and the number of the one that holds all others. -/
structure Composition where
  nodes : Nodes
  root : Nat
  deriving Repr

end RoutingPlane.Yaml
