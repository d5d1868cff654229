import RoutingPlane.Yaml.Fault
import RoutingPlane.Yaml.Node

/-!
Mappings that take over the entries of others. A key with the tag for it names a
mapping, or a list of mappings, whose entries go in front of the own ones; so of
two equal keys the own one has the last word, and of several mappings the first.
-/

namespace RoutingPlane.Yaml.Nodes

/-- The first entry whose key takes over others, cut out of the entries: those
before it, its value, and those behind it. -/
def cutMerge? (nodes : Nodes) :
    List (Nat × Nat) → Option (List (Nat × Nat) × Nat × List (Nat × Nat))
  | [] => none
  | (key, value) :: rest =>
      if nodes.hasTag .merge key then some ([], value, rest)
      else (cutMerge? nodes rest).map fun cut => ((key, value) :: cut.1, cut.2)

/-- Makes keys that could stand for a whole mapping plain texts. -/
def settleKeys (nodes : Nodes) (entries : List (Nat × Nat)) : Nodes :=
  entries.foldl (fun settled entry =>
    if settled.hasTag .standIn entry.1 then settled.setTag entry.1 .text else settled) nodes

/-- The entries that a node hands over: its own ones, or those of its items, of
which the last one comes first. The given function prepares each mapping. -/
def handOver (prepare : Nodes → Nat → Except DocumentFault Nodes) (nodes : Nodes) (number : Nat) :
    Except DocumentFault (Nodes × List (Nat × Nat)) := do
  let handOverOne (nodes : Nodes) (number : Nat) := do
    let _ ← nodes.entries? number
    let prepared ← prepare nodes number
    return (prepared, ← prepared.entries? number)
  match nodes.items? number with
  | none => handOverOne nodes number
  | some items =>
      items.foldlM (fun handed item => do
        let (prepared, entries) ← handOverOne handed.1 item
        return (prepared, entries ++ handed.2)) (nodes, [])

/-- Takes over entries into a mapping, as long as it has keys for it and at most
the given number of times, in addition to those already taken over. Each time
such a key is removed before its value is looked at, so a mapping that takes over
itself comes to an end. -/
def takeOver : Nat → Nodes → Nat → List (Nat × Nat) → Except DocumentFault Nodes
  | 0, nodes, _, _ => .ok nodes
  | steps + 1, nodes, number, taken => do
      let entries ← nodes.entries? number
      match cutMerge? nodes entries with
      | none =>
          let settled := nodes.settleKeys entries
          return if taken.isEmpty then settled
            else settled.setContent number (.mapping (taken ++ entries))
      | some (before, value, behind) => do
          let shortened := nodes.setContent number (.mapping (before ++ behind))
          let (after, more) ← handOver (fun nodes number => takeOver steps nodes number []) shortened
            value
          takeOver steps after number (taken ++ more)

def mergeCount (nodes : Nodes) : Nat :=
  nodes.foldl (fun count node =>
    match node.content with
    | .mapping entries => count + (entries.filter fun entry => nodes.hasTag .merge entry.1).length
    | _ => count) 0

end RoutingPlane.Yaml.Nodes
