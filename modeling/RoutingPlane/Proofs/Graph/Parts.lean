import RoutingPlane.Graph
import RoutingPlane.Proofs.Bgp.Sessions
import RoutingPlane.Proofs.EdgeMap.Keyed
import RoutingPlane.Proofs.Topology.Edges

/-!
What a graph is put together from. The stages of a build are taken apart here once, so that
the theorems on graphs depend on its parts and not on the order of the stages.
-/

namespace RoutingPlane

namespace Graph

variable {devices : Table String Device} {adjacency : Adjacency} {selection : Selection}
  {options : Options} {graph : Graph} {internal : InternalSessions} {head router : String}
  {edge : Edge}

/-! ## The selected devices -/

theorem get?_of_selected {modelled : Table String Device} {device : Device}
    (isSelected : selected devices selection = .ok modelled)
    (isDevice : modelled.get? router = some device) : devices.get? router = some device := by
  cases selection with
  | all =>
      cases isSelected
      exact isDevice
  | only names =>
      cases isSelected
      rw [Table.get?_filterKeys] at isDevice
      split at isDevice
      · exact isDevice
      · cases isDevice
  | text given => cases isSelected

theorem wellNamed_selected (named : WellNamed devices) {selection : Selection}
    {modelled : Table String Device} (isSelected : selected devices selection = .ok modelled) :
    WellNamed modelled :=
  fun router device isDevice => named router device (get?_of_selected isSelected isDevice)

theorem mem_keys_of_selected {modelled : Table String Device}
    (isSelected : selected devices selection = .ok modelled)
    (isModelled : head ∈ modelled.keys) : head ∈ devices.keys := by
  obtain ⟨device, isDevice⟩ := Table.mem_keys_iff_exists.1 isModelled
  exact Table.mem_keys_iff_exists.2 ⟨device, get?_of_selected isSelected isDevice⟩

/-- The first device stays the first if it is selected. -/
theorem head?_keys_selected {modelled : Table String Device}
    (isSelected : selected devices selection = .ok modelled)
    (isHead : devices.keys.head? = some head) (isModelled : head ∈ modelled.keys) :
    modelled.keys.head? = some head := by
  cases selection with
  | all =>
      cases isSelected
      exact isHead
  | only names =>
      cases isSelected
      obtain ⟨rest, keysAre⟩ := List.head?_eq_some_iff.1 isHead
      rw [Table.keys_filterKeys] at isModelled ⊢
      rw [keysAre, List.filter_cons_of_pos (List.mem_filter.1 isModelled).2, List.head?_cons]
  | text given => cases isSelected

/-! ## The edges of a graph -/

theorem getD_allEdges (devices : Table String Device)
    (concrete abstract : Table String (List Edge)) (router : String) :
    ((allEdges devices concrete abstract).get? router).getD [] =
      if (devices.get? router).isSome then
        (concrete.get? router).getD [] ++ (abstract.get? router).getD []
      else [] := by
  rw [allEdges, Table.get?_mapValues]
  cases devices.get? router <;> rfl

/-- The concrete edges of a graph are those of its topology. -/
theorem concrete_allEdges (resolved : InternalSessions.resolve devices options = .ok internal)
    (router : String) :
    (((allEdges devices (Topology.infer devices adjacency).edges internal.edges).get?
      router).getD []).filter (fun edge => !edge.abstract) =
        ((Topology.infer devices adjacency).edges.get? router).getD [] := by
  rw [getD_allEdges]
  cases isDevice : devices.get? router with
  | none => simp [Topology.getD_edges, isDevice]
  | some device =>
      rw [Option.isSome_some, if_pos rfl, List.filter_append, List.filter_eq_self.2,
        List.filter_eq_nil_iff.2, List.append_nil]
      · intro edge isEdge
        simp [InternalSessions.abstract_of_mem_edges resolved isEdge]
      · intro edge isEdge
        simp [Topology.concrete_of_listed isEdge]

theorem mem_allEdges_of_abstract (isAbstract : edge.abstract = true) :
    edge ∈ ((allEdges devices (Topology.infer devices adjacency).edges internal.edges).get?
      router).getD [] ↔
        (devices.get? router).isSome ∧ edge ∈ (internal.edges.get? router).getD [] := by
  rw [getD_allEdges]
  cases isDevice : devices.get? router with
  | none => simp
  | some device =>
      have notConcrete :
          edge ∉ ((Topology.infer devices adjacency).edges.get? router).getD [] := by
        intro isEdge
        simp [Topology.concrete_of_listed isEdge] at isAbstract
      simp [notConcrete]

/-! ## All parts -/

/-- The parts of a graph that is built from some devices, with the sessions inside autonomous
systems that are resolved for it. -/
structure BuiltWith (devices : Table String Device) (adjacency : Adjacency)
    (selection : Selection) (options : Options) (graph : Graph) (internal : InternalSessions) :
    Prop where
  isSelected : selected devices selection = .ok graph.devices
  options : graph.options = options
  costs : OspfCost.resolve graph.devices graph.options = .ok graph.costs
  bindings : RouteBinding.resolve graph.devices (Topology.infer graph.devices adjacency).edges
    graph.options = .ok graph.bindings
  resolved : InternalSessions.resolve graph.devices graph.options = .ok internal
  edges : graph.edges =
    allEdges graph.devices (Topology.infer graph.devices adjacency).edges internal.edges
  reverse : graph.reverse = EdgeMap.ofList
    (Topology.oppositePairs graph.devices adjacency ++ internal.reverse.entries)
  neighbors : graph.neighbors = (Topology.infer graph.devices adjacency).neighbors
  external : graph.external = ExternalSessions.resolve graph.devices
    (Topology.infer graph.devices adjacency).edges
  sessions : graph.internal = internal.sessions
  reflectorOf : graph.reflectorOf = internal.reflectorOf
  clients : graph.clients = internal.clients
  originatorIds : graph.originatorIds = internal.originatorIds
  areaIds : graph.areaIds = RoutingPlane.areaIds graph.devices
  domains : graph.domains =
    partitionDomains graph.devices.keys graph.edges graph.reverse graph.external

/-- A build succeeds exactly with a graph all of whose parts are resolved. -/
theorem build_eq_ok_iff :
    build devices adjacency selection options = .ok graph ↔
      ∃ internal, BuiltWith devices adjacency selection options graph internal := by
  have reverseOf : ∀ modelled (sessions : InternalSessions),
      (Topology.infer modelled adjacency).reverse.putAll sessions.reverse.entries =
        EdgeMap.ofList (Topology.oppositePairs modelled adjacency ++ sessions.reverse.entries) :=
    fun _ _ => (EdgeMap.putAll_append {} _ _).symm
  constructor
  · intro succeeded
    obtain ⟨modelled, isSelected, succeeded⟩ := bind_eq_ok_iff.1 succeeded
    obtain ⟨costs, costsResolved, succeeded⟩ := bind_eq_ok_iff.1 succeeded
    obtain ⟨bindings, bound, succeeded⟩ := bind_eq_ok_iff.1 succeeded
    obtain ⟨internal, resolved, succeeded⟩ := bind_eq_ok_iff.1 succeeded
    rw [← pure_eq_ok_iff.1 succeeded]
    exact ⟨internal,
      { isSelected := mapError_eq_ok_iff.1 isSelected
        options := rfl
        costs := costsResolved
        bindings := mapError_eq_ok_iff.1 bound
        resolved := mapError_eq_ok_iff.1 resolved
        edges := rfl
        reverse := reverseOf _ _
        neighbors := rfl
        external := rfl
        sessions := rfl
        reflectorOf := rfl
        clients := rfl
        originatorIds := rfl
        areaIds := rfl
        domains := rfl }⟩
  · rintro ⟨internal, parts⟩
    obtain rfl := parts.options
    refine bind_eq_ok_iff.2 ⟨_, mapError_eq_ok_iff.2 parts.isSelected, ?_⟩
    refine bind_eq_ok_iff.2 ⟨_, parts.costs, ?_⟩
    refine bind_eq_ok_iff.2 ⟨_, mapError_eq_ok_iff.2 parts.bindings, ?_⟩
    refine bind_eq_ok_iff.2 ⟨_, mapError_eq_ok_iff.2 parts.resolved, ?_⟩
    rw [pure_eq_ok_iff, reverseOf, ← parts.edges, ← parts.reverse, ← parts.neighbors,
      ← parts.external, ← parts.sessions, ← parts.reflectorOf, ← parts.clients,
      ← parts.originatorIds, ← parts.areaIds, ← parts.domains]

end Graph

end RoutingPlane
