/-!
The tags of nodes: what kind of value a node stands for. A tag that is none of
the standard ones is unknown.
-/

namespace RoutingPlane.Yaml

inductive Tag where
  | null
  | bool
  | int
  | float
  | time
  | bytes
  | text
  | list
  | map
  | set
  /-- A list of pairs with distinct keys. -/
  | orderedMap
  | pairs
  /-- A key that takes over the entries of other mappings. -/
  | merge
  /-- A key whose value can stand for the whole mapping. -/
  | standIn
  | unknown
  deriving DecidableEq, Repr

namespace Tag

def standardStart : String :=
  "tag:yaml.org,2002:"

def standard : List (String × Tag) :=
  [("null", null), ("bool", bool), ("int", int), ("float", float), ("timestamp", time),
    ("binary", bytes), ("str", text), ("seq", list), ("map", map), ("set", set),
    ("omap", orderedMap), ("pairs", pairs), ("merge", merge), ("value", standIn)]

def ofName (name : String) : Tag :=
  match standard.find? fun entry => standardStart ++ entry.1 = name with
  | some entry => entry.2
  | none => unknown

/-- Whether a node with this tag stands for a value that holds no others. -/
def isScalar : Tag → Bool
  | null => true
  | bool => true
  | int => true
  | float => true
  | time => true
  | bytes => true
  | text => true
  | _ => false

end Tag

end RoutingPlane.Yaml
