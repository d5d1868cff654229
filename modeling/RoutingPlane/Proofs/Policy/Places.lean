import RoutingPlane.Policy.Walk
import RoutingPlane.Proofs.Enumeration

/-!
Places in policies. A place in a list of statements is the number of a statement
together with the way from it to a node inside: at every step the number of the part
that is entered. The nodes of statements are those at their places, each place once.
-/

namespace RoutingPlane

namespace PolicyNode

/-- The nodes right inside a node, in order: the condition of a branch and its
statements on both sides, and the conditions that a condition is made of. -/
def parts : PolicyNode → List PolicyNode
  | statement (.branch guard whenTrue whenFalse) =>
      condition guard :: (whenTrue ++ whenFalse).map statement
  | condition (.not inner) => [condition inner]
  | condition (.all conditions) => conditions.map condition
  | condition (.any conditions) => conditions.map condition
  | _ => []

/-- The node that is reached from a node by entering one part after the other. -/
def inside? : PolicyNode → List Nat → Option PolicyNode
  | node, [] => some node
  | node, part :: path => node.parts[part]?.bind fun entered => entered.inside? path

/-- A place in a list of statements: the number of a statement and a way inside it. -/
abbrev Place := Nat × List Nat

def at? (statements : List Statement) (place : Place) : Option PolicyNode :=
  (statements.map statement)[place.1]?.bind fun node => node.inside? place.2

/-- The nodes of a statement or a condition, each before its parts. -/
def nodes : PolicyNode → List PolicyNode
  | statement inner => inner.nodes
  | condition inner => inner.nodes

end PolicyNode

theorem Condition.listNodes_eq_flatMap (conditions : List Condition) :
    Condition.listNodes conditions =
      (conditions.map PolicyNode.condition).flatMap PolicyNode.nodes := by
  induction conditions with
  | nil => rfl
  | cons condition rest inductionHypothesis =>
      rw [Condition.listNodes, inductionHypothesis]
      rfl

theorem Statement.listNodes_eq_flatMap (statements : List Statement) :
    Statement.listNodes statements =
      (statements.map PolicyNode.statement).flatMap PolicyNode.nodes := by
  induction statements with
  | nil => rfl
  | cons statement rest inductionHypothesis =>
      rw [Statement.listNodes, inductionHypothesis]
      rfl

namespace PolicyNode

/-- The nodes of a node are the node and those of its parts. -/
theorem nodes_eq (node : PolicyNode) : node.nodes = node :: node.parts.flatMap nodes := by
  cases node with
  | statement statement =>
      cases statement with
      | act action => rfl
      | call policy => rfl
      | branch guard whenTrue whenFalse =>
          simp only [nodes, parts, Statement.nodes, Statement.listNodes_eq_flatMap,
            List.flatMap_cons, List.map_append, List.flatMap_append]
  | condition condition =>
      cases condition with
      | within set => rfl
      | learnedFrom source => rfl
      | call policy => rfl
      | not inner => simp only [nodes, parts, Condition.nodes, List.flatMap_singleton]
      | all conditions => simp only [nodes, parts, Condition.nodes, Condition.listNodes_eq_flatMap]
      | any conditions => simp only [nodes, parts, Condition.nodes, Condition.listNodes_eq_flatMap]

/-- The parts of a node are smaller than the node, so going down to them ends. -/
theorem sizeOf_lt_of_mem_parts {node part : PolicyNode} (isPart : part ∈ node.parts) :
    sizeOf part < sizeOf node := by
  cases node with
  | statement statement =>
      cases statement with
      | act action => cases isPart
      | call policy => cases isPart
      | branch guard whenTrue whenFalse =>
          rcases List.mem_cons.1 isPart with rfl | isStatement
          · simp only [statement.sizeOf_spec, condition.sizeOf_spec, Statement.branch.sizeOf_spec]
            omega
          · obtain ⟨inner, isInner, rfl⟩ := List.mem_map.1 isStatement
            simp only [statement.sizeOf_spec, Statement.branch.sizeOf_spec]
            rcases List.mem_append.1 isInner with inTrue | inFalse
            · have smaller := List.sizeOf_lt_of_mem inTrue
              omega
            · have smaller := List.sizeOf_lt_of_mem inFalse
              omega
  | condition condition =>
      cases condition with
      | within set => cases isPart
      | learnedFrom source => cases isPart
      | call policy => cases isPart
      | not inner =>
          rw [List.mem_singleton.1 isPart]
          simp only [condition.sizeOf_spec, Condition.not.sizeOf_spec]
          omega
      | all conditions =>
          obtain ⟨inner, isInner, rfl⟩ := List.mem_map.1 isPart
          have smaller := List.sizeOf_lt_of_mem isInner
          simp only [condition.sizeOf_spec, Condition.all.sizeOf_spec]
          omega
      | any conditions =>
          obtain ⟨inner, isInner, rfl⟩ := List.mem_map.1 isPart
          have smaller := List.sizeOf_lt_of_mem isInner
          simp only [condition.sizeOf_spec, Condition.any.sizeOf_spec]
          omega

/-! ## Every place once -/

theorem inside?_cons_eq_some_iff {node inner : PolicyNode} {part : Nat} {path : List Nat} :
    node.inside? (part :: path) = some inner ↔
      ∃ entered, node.parts[part]? = some entered ∧ entered.inside? path = some inner := by
  rw [inside?, Option.bind_eq_some_iff]

/-- The nodes of a node are what stands at the ends of the ways inside it. -/
theorem exists_enumerates_inside (node : PolicyNode) :
    ∃ paths, Enumerates (fun path inner => node.inside? path = some inner) paths node.nodes := by
  have eachPart : ∀ part ∈ node.parts, ∃ paths,
      Enumerates (fun path inner => part.inside? path = some inner) paths part.nodes :=
    fun part _ => exists_enumerates_inside part
  obtain ⟨places, enumerates⟩ := Enumerates.exists_numbered node.parts
    (fun part path inner => part.inside? path = some inner) nodes eachPart
  have isWay : Function.Injective fun place : Place => place.1 :: place.2 := by
    rintro ⟨part, path⟩ ⟨otherPart, otherPath⟩ same
    obtain ⟨rfl, rfl⟩ := List.cons.inj same
    rfl
  refine ⟨[] :: places.map fun place => place.1 :: place.2, ?_, ?_, ?_⟩
  · rw [List.nodup_cons]
    exact ⟨by simp, enumerates.distinct.map isWay⟩
  · intro path inner stands
    cases path with
    | nil => exact List.mem_cons_self
    | cons part path =>
        have isPlace : (part, path) ∈ places :=
          enumerates.complete (part, path) inner (inside?_cons_eq_some_iff.1 stands)
        exact List.mem_cons_of_mem _ (List.mem_map.2 ⟨_, isPlace, rfl⟩)
  · rw [nodes_eq]
    refine .cons rfl (List.forall₂_map_left_iff.2 ?_)
    exact enumerates.found.imp fun place inner => inside?_cons_eq_some_iff.2
termination_by sizeOf node
decreasing_by
  exact sizeOf_lt_of_mem_parts ‹_›

/-- The nodes of a list of statements are what stands at the places in it. -/
theorem exists_enumerates_at (statements : List Statement) :
    ∃ places, Enumerates (fun place inner => at? statements place = some inner) places
      (Statement.listNodes statements) := by
  obtain ⟨places, enumerates⟩ := Enumerates.exists_numbered (statements.map statement)
    (fun node path inner => node.inside? path = some inner) nodes
    fun node _ => exists_enumerates_inside node
  rw [Statement.listNodes_eq_flatMap]
  refine ⟨places, enumerates.congr fun place inner => ?_⟩
  rw [at?, Option.bind_eq_some_iff]

/-- A node of a list of statements stands at a place in it. -/
theorem mem_listNodes_iff {statements : List Statement} {node : PolicyNode} :
    node ∈ Statement.listNodes statements ↔ ∃ place, at? statements place = some node := by
  obtain ⟨places, enumerates⟩ := exists_enumerates_at statements
  apply enumerates.mem_iff
  intro place first second isFirst isSecond
  exact Option.some.inj (isFirst.symm.trans isSecond)

end PolicyNode

end RoutingPlane
