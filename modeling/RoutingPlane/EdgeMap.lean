import RoutingPlane.Edge

/-!
Mappings whose keys are edges. What belongs to an edge was entered under the names
that its ends had then, and is found as long as they have these names: an end
that is renamed later hides it, and shows it again when it is named back. An edge
that takes the names of another one finds what belongs to that one.
-/

namespace RoutingPlane

/-- A mapping from edges. Each edge stands under the key that it had when it was
entered. -/
structure EdgeMap (β : Type) where
  table : Table EdgeKey (Edge × β) := .empty

namespace EdgeMap

variable {β : Type}

/-- The edges with what belongs to them, in the order in which they were
entered. -/
def entries (map : EdgeMap β) : List (Edge × β) :=
  map.table.values

def size (map : EdgeMap β) : Nat :=
  map.table.size

def get? (map : EdgeMap β) (key : EdgeKey) : Option β :=
  match map.table.get? key with
  | some (edge, value) => if edge.key = key then some value else none
  | none => none

def contains (map : EdgeMap β) (key : EdgeKey) : Bool :=
  (map.get? key).isSome

/-- Enters what belongs to an edge. An equal edge stays, but what belonged to it
is replaced. -/
def put (map : EdgeMap β) (edge : Edge) (value : β) : EdgeMap β :=
  match map.table.get? edge.key with
  | some (earlier, _) => ⟨map.table.put edge.key (earlier, value)⟩
  | none => ⟨map.table.put edge.key (edge, value)⟩

def putAll (map : EdgeMap β) (entries : List (Edge × β)) : EdgeMap β :=
  entries.foldl (fun filled entry => filled.put entry.1 entry.2) map

def ofList (entries : List (Edge × β)) : EdgeMap β :=
  putAll {} entries

/-- Changes the edges and what belongs to them. They stay under their keys. -/
def refresh (map : EdgeMap β) (changeEdge : Edge → Edge) (change : β → β) : EdgeMap β :=
  ⟨map.table.mapValues fun _ entry => (changeEdge entry.1, change entry.2)⟩

/-- Whether something is found for every edge under the key that it has now. -/
def isCurrent (map : EdgeMap β) : Bool :=
  map.entries.all fun entry => map.contains entry.1.key

theorem get?_empty (key : EdgeKey) : ({} : EdgeMap β).get? key = none := rfl

theorem get?_put_of_ne (map : EdgeMap β) {edge : Edge} {key : EdgeKey} (value : β)
    (different : key ≠ edge.key) : (map.put edge value).get? key = map.get? key := by
  cases found : map.table.get? edge.key <;>
    simp only [get?, put, found, Table.get?_put_of_ne _ _ different]

end EdgeMap

end RoutingPlane
