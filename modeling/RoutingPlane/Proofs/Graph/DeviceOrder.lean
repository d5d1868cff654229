import RoutingPlane.Proofs.Bgp.External
import RoutingPlane.Proofs.Graph.Parts

/-!
The graph of devices that are listed in another order. Every stage goes through the
devices one by one, and what it enters for one of them does not depend on what it
entered before. So the order of the devices decides which reflector a client has,
how devices are numbered and which domains are told apart, and nothing else.
-/

namespace RoutingPlane

namespace Graph

/-- Two graphs differ only in the order of what they list, in reflectors, in the
numbers of devices and in domains. -/
structure SameUpToOrder (left right : Graph) : Prop where
  options : left.options = right.options
  devices : left.devices.SameMap right.devices
  modelled : ∀ router, router ∈ left.edges.keys ↔ router ∈ right.edges.keys
  concrete : ∀ router, (left.edgesOf router).filter (fun edge => !edge.abstract) =
    (right.edgesOf router).filter fun edge => !edge.abstract
  abstract : ∀ router edge, edge.abstract = true →
    (edge ∈ left.edgesOf router ↔ edge ∈ right.edgesOf router)
  reverse : left.reverse.SameMap right.reverse
  neighbors : left.neighbors.SameMap right.neighbors
  costs : left.costs.SameMap right.costs
  bindings : left.bindings.SameMap right.bindings
  areaIds : left.areaIds.SameMap right.areaIds
  external : left.external.SameMap right.external
  internal : left.internal.SameMap right.internal

variable {devices left right : Table String Device} {adjacency : Adjacency}
  {options : Options} {internal : InternalSessions}

theorem sameMap_selected (same : left.SameMap right) (selection : Selection) :
    Alike Table.SameMap (selected left selection) (selected right selection) := by
  cases selection with
  | all => exact same
  | only names => exact same.filterKeys _
  | text given => exact trivial

theorem alike_costs (same : left.SameMap right) (options : Options) :
    Alike Table.SameMap (OspfCost.resolve left options) (OspfCost.resolve right options) :=
  same.ofList_rows (OspfCost.deviceCosts options)

theorem alike_bindings (same : left.SameMap right) (adjacency : Adjacency)
    (options : Options) :
    Alike Table.SameMap
      (RouteBinding.resolve left (Topology.infer left adjacency).edges options)
      (RouteBinding.resolve right (Topology.infer right adjacency).edges options) := by
  have bound := same.ofList_rows fun router device =>
    RouteBinding.bindRoutes router
      (((Topology.infer left adjacency).edges.get? router).getD []) options device.staticRoutes
  have sameEdges := Topology.sameMap_edges same adjacency
  unfold RouteBinding.resolve
  simp only [← sameEdges _]
  exact bound

/-! ## Reverse edges of sessions beside those of the topology -/

/-- Opposites of sessions can be entered beside those of links, since the key of an edge tells
whether it is abstract. -/
theorem admits_reverse (named : WellNamed devices)
    (resolved : InternalSessions.resolve devices options = .ok internal) :
    (Topology.infer devices adjacency).reverse.Admits internal.reverse.entries := by
  rintro ⟨edge, other⟩ isReverse present found
  have isAbstract := InternalSessions.abstract_of_mem_reverse resolved isReverse
  obtain ⟨isPair, sameKey⟩ :=
    (EdgeMap.table_get?_ofList (Topology.consistent_oppositePairs named)).1 found
  have isConcrete := (Topology.grounded_of_mem_oppositePairs named isPair).1.concrete
  have sameKind : present.1.abstract = edge.abstract := congrArg EdgeKey.abstract sameKey
  rw [isConcrete, isAbstract] at sameKind
  cases sameKind

/-- Devices in any order have graphs that differ only in what depends on it. -/
theorem alike_ofDevices (named : WellNamed left) (same : left.SameMap right)
    (adjacency : Adjacency) (options : Options) :
    Alike SameUpToOrder (ofDevices left adjacency options)
      (ofDevices right adjacency options) := by
  have sameEdges := Topology.sameMap_edges same adjacency
  apply (alike_costs same options).bind
  intro leftCosts rightCosts _ _ sameCosts
  apply ((alike_bindings same adjacency options).mapError Fault.configuration).bind
  intro leftBindings rightBindings _ _ sameBindings
  apply ((InternalSessions.alike_resolve same options).mapError Fault.value).bind
  intro leftInternal rightInternal leftResolved rightResolved sameSessions
  rw [mapError_eq_ok_iff] at leftResolved rightResolved
  exact {
    options := rfl
    devices := same
    modelled := by
      intro router
      simp only [allEdges, Table.keys_mapValues]
      exact same.mem_keys
    concrete := by
      intro router
      simp only [edgesOf, concrete_allEdges leftResolved, concrete_allEdges rightResolved,
        sameEdges router]
    abstract := by
      intro router edge isAbstract
      simp only [edgesOf, mem_allEdges_of_abstract isAbstract, sameSessions.edges, same router]
    reverse := by
      apply EdgeMap.sameMap_putAll _ (InternalSessions.consistent_reverse leftResolved)
        (admits_reverse named leftResolved) sameSessions.reverse
      exact EdgeMap.sameMap_ofList (Topology.consistent_oppositePairs named)
        fun _ => Topology.mem_oppositePairs_congr same
    neighbors := Topology.sameMap_neighbors same adjacency
    costs := sameCosts
    bindings := sameBindings
    areaIds := same.mapValues _
    external := ExternalSessions.sameMap_resolve named same adjacency
    internal := sameSessions.sessions }

/-- The devices of a well named network in any order have graphs that differ only in
what depends on the order. -/
theorem alike_build (named : WellNamed left) (same : left.SameMap right)
    (adjacency : Adjacency) (selection : Selection) (options : Options) :
    Alike SameUpToOrder (build left adjacency selection options)
      (build right adjacency selection options) := by
  apply ((sameMap_selected same selection).mapError Fault.configuration).bind
  intro leftModelled rightModelled leftSelected _ sameModelled
  exact alike_ofDevices (wellNamed_selected named (mapError_eq_ok_iff.1 leftSelected))
    sameModelled adjacency options

end Graph

/-- A snapshot and a permutation of its devices fail both, or have graphs with the
same edges, costs, routes and sessions. -/
theorem Snapshot.build_permuted {path : String} {value : Value} {snapshot : Snapshot}
    (isRead : Snapshot.read path value = .ok snapshot) {shuffled : Table String Device}
    (permuted : shuffled.entries.Perm snapshot.devices.entries) (selection : Selection) :
    Alike Graph.SameUpToOrder (snapshot.build selection)
      ({ snapshot with devices := shuffled }.build selection) :=
  Graph.alike_build (Snapshot.wellNamed_of_read isRead)
    (Table.SameMap.of_perm permuted.symm) snapshot.adjacency selection snapshot.options

/-- Two devices on a link, with the settings of the end that is listed first. -/
def linkedDevices (settings : Value) : Value :=
  .map [
    (.text "devices", .map [
      (.text "b", .map [(.text "interfaces", .map [(.text "eth0", settings)])]),
      (.text "a", .map [(.text "interfaces", .map [
        (.text "eth0", .map [(.text "prefix", .text "10.0.0.1/30")])])])]),
    (.text "links", .list [.list [.text "a:eth0", .text "b:eth0"]])]

def oneSidedLink : Value :=
  linkedDevices .null

def twoSidedLink : Value :=
  linkedDevices (.map [(.text "prefix", .text "10.0.0.2/30")])

theorem Snapshot.build_permuted_oneSidedLink :
    ∃ snapshot graph other, Snapshot.read Snapshot.standardPath oneSidedLink = .ok snapshot ∧
      snapshot.build .all = .ok graph ∧
      { snapshot with devices := snapshot.devices.reversed }.build .all = .ok other ∧
      Graph.SameUpToOrder graph other := by
  have evaluated : (do
      let snapshot ← Snapshot.read Snapshot.standardPath oneSidedLink
      let _ ← snapshot.build .all
      { snapshot with devices := snapshot.devices.reversed }.build .all).isOk = true := by
    decide +kernel
  obtain ⟨_, succeeded⟩ := isOk_iff_exists.1 evaluated
  obtain ⟨snapshot, isRead, succeeded⟩ := bind_eq_ok_iff.1 succeeded
  obtain ⟨graph, isBuilt, succeeded⟩ := bind_eq_ok_iff.1 succeeded
  have alike : Alike Graph.SameUpToOrder (snapshot.build .all)
      ({ snapshot with devices := snapshot.devices.reversed }.build .all) :=
    Snapshot.build_permuted isRead (List.reverse_perm snapshot.devices.entries) .all
  exact ⟨snapshot, graph, _, isRead, isBuilt, succeeded, alike.of_ok isBuilt succeeded⟩

end RoutingPlane
