import RoutingPlane.Device
import RoutingPlane.Exhaustion
import RoutingPlane.Note

/-!
Walks over routing policies. A walk meets every statement and every condition
of the policies that it enters, each node before its parts. Right after a call
it enters the called policy, unless it has entered it before.
-/

namespace RoutingPlane

inductive PolicyNode where
  | statement (statement : Statement)
  | condition (condition : Condition)
  deriving Repr

namespace Condition

mutual

/-- The nodes of a condition, each before its parts. -/
def nodes : Condition → List PolicyNode
  | within set => [.condition (within set)]
  | learnedFrom source => [.condition (learnedFrom source)]
  | call policy => [.condition (call policy)]
  | not inner => .condition (not inner) :: nodes inner
  | all conditions => .condition (all conditions) :: listNodes conditions
  | any conditions => .condition (any conditions) :: listNodes conditions

def listNodes : List Condition → List PolicyNode
  | [] => []
  | condition :: rest => nodes condition ++ listNodes rest

end

end Condition

namespace Statement

mutual

/-- The nodes of a statement, each before its parts. -/
def nodes : Statement → List PolicyNode
  | act action => [.statement (act action)]
  | call policy => [.statement (call policy)]
  | branch guard whenTrue whenFalse =>
      .statement (branch guard whenTrue whenFalse) ::
        (guard.nodes ++ (listNodes whenTrue ++ listNodes whenFalse))

def listNodes : List Statement → List PolicyNode
  | [] => []
  | statement :: rest => nodes statement ++ listNodes rest

end

end Statement

def PolicyNode.called? : PolicyNode → Option String
  | statement (.call policy) => some policy
  | condition (.call policy) => some policy
  | _ => none

inductive WalkEvent where
  | met (node : PolicyNode)
  /-- A called policy is not defined. -/
  | undefined (policy : String)
  deriving Repr

/-- What happened on a walk, and the names of all policies called so far. -/
structure Walk where
  events : List WalkEvent
  called : List String

namespace Walk

def after (events : List WalkEvent) (walk : Walk) : Walk :=
  { walk with events := events ++ walk.events }

/-- Walks over pending nodes, when some policies were called before. -/
def through (policies : Table String RoutingPolicy) (called : List String)
    (pending : List PolicyNode) : Walk :=
  match pending with
  | [] => { events := [], called }
  | node :: rest =>
      match node.called? with
      | none => after [.met node] (through policies called rest)
      | some name =>
          if _ : name ∈ called then after [.met node] (through policies called rest)
          else
            match _ : policies.get? name with
            | none =>
                after [.met node, .undefined name] (through policies (name :: called) rest)
            | some policy =>
                after [.met node]
                  (through policies (name :: called) (Statement.listNodes policy.statements ++ rest))
termination_by ((leftOver policies.keys called).length, pending.length)
decreasing_by
  · exact Prod.Lex.right _ (by simp)
  · exact Prod.Lex.right _ (by simp)
  · have included : ∀ other ∈ called, other ∈ name :: called :=
      fun other member => List.mem_cons_of_mem name member
    have shorter := (leftOver_sublist policies.keys included).length_le
    rcases Nat.lt_or_ge (leftOver policies.keys (name :: called)).length
        (leftOver policies.keys called).length with smaller | notSmaller
    · exact Prod.Lex.left _ _ smaller
    · rw [Nat.le_antisymm shorter notSmaller]
      exact Prod.Lex.right _ (by simp)
  · refine Prod.Lex.left _ _ (length_leftOver_lt name
      (fun other member => List.mem_cons_of_mem name member) ?_ (by simp))
    exact mem_leftOver.2
      ⟨List.mem_map.2 ⟨(name, policy), Table.mem_entries_of_get? ‹_›, rfl⟩, ‹_›⟩

end Walk

def Device.walk (device : Device) (called : List String) (statements : List Statement) : Walk :=
  Walk.through device.policies called (Statement.listNodes statements)

/-- Walks over several lists of statements, one after the other. What was called on one
of them is not entered again on a later one. -/
def Device.walks (device : Device) (called : List String) : List (List Statement) → List Walk
  | [] => []
  | statements :: rest =>
      let walk := device.walk called statements
      walk :: device.walks walk.called rest

def Walk.nodes (walk : Walk) : List PolicyNode :=
  walk.events.filterMap fun event =>
    match event with
    | .met node => some node
    | .undefined _ => none

def Walk.notes (walk : Walk) (device : Device) : List Note :=
  walk.events.filterMap fun event =>
    match event with
    | .met _ => none
    | .undefined policy => some (.undefinedPolicy device.name policy)

end RoutingPlane
