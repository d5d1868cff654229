import RoutingPlane.Proofs.Bgp.Resolution
import RoutingPlane.Proofs.Graph.Parts
import RoutingPlane.Proofs.OspfCost
import RoutingPlane.Proofs.RouteBinding

/-!
Faults of a build. Costs are resolved before routes are bound, and nothing after that can fail:
sessions are carried by made up interfaces whose addresses can always be read, and domains grow
from any edges. So a build fails for a missing bandwidth or for a route without an edge.
-/

namespace RoutingPlane.Graph

variable {devices modelled : Table String Device} {adjacency : Adjacency} {selection : Selection}
  {options : Options} {router : String} {device : Device} {interface : Interface}
  {route : StaticRoute}

/-- The cost of an interface has to be derived from a bandwidth, and the interface has none. -/
structure MissesBandwidth (options : Options) (device : Device) (interface : Interface) :
    Prop where
  runsProcess : device.ospf.isSome = true
  isInterface : ∃ name, device.interfaces.get? name = some interface
  active : interface.isActive = true
  noCost : interface.ospfCost.isNull = true
  notVlan : OspfCost.isNamedVlan options interface = false
  noBandwidth : interface.bandwidth.truthy = false

/-- A route does not discard traffic, and none of some edges takes it to its next hop. -/
structure MissesEdge (options : Options) (device : Device) (listed : List Edge)
    (route : StaticRoute) : Prop where
  isRoute : route ∈ device.staticRoutes
  notDiscard : route.isDiscard options = false
  notRealized : ∀ edge ∈ listed, edge.realizes route = false

/-- An interface of a device misses a bandwidth. -/
def AnyMissesBandwidth (options : Options) (modelled : Table String Device) : Prop :=
  ∃ router device interface, modelled.get? router = some device ∧
    MissesBandwidth options device interface

/-- A route of a device misses an edge. -/
def AnyMissesEdge (options : Options) (adjacency : Adjacency) (modelled : Table String Device) :
    Prop :=
  ∃ router device route, modelled.get? router = some device ∧
    MissesEdge options device (Topology.edgesOf modelled adjacency router device) route

/-- The first interface whose cost has to be derived from a bandwidth that it lacks. -/
def firstWithoutBandwidth? (options : Options) (modelled : Table String Device) :
    Option (String × OspfProcess × Interface) :=
  (OspfCost.derived modelled).find? fun item => OspfCost.lacksBandwidth options item.2.2

def firstWithoutEdge? (options : Options) (adjacency : Adjacency)
    (modelled : Table String Device) : Option (String × List Edge × StaticRoute) :=
  (RouteBinding.routesOf modelled (Topology.infer modelled adjacency).edges).find? fun item =>
    RouteBinding.isUnbound options item.2.1 item.2.2

/-- If any interface misses a bandwidth, one of them is the first. -/
theorem exists_firstWithoutBandwidth_iff :
    (∃ item, firstWithoutBandwidth? options modelled = some item) ↔
      AnyMissesBandwidth options modelled := by
  rw [← Option.isSome_iff_exists, firstWithoutBandwidth?, List.find?_isSome]
  constructor
  · rintro ⟨⟨router, process, interface⟩, isDerived, lacks⟩
    obtain ⟨device, isDevice, isCosted, noCost⟩ := OspfCost.mem_derived_iff.1 isDerived
    obtain ⟨runs, isInterface, active⟩ := OspfCost.mem_costed_iff.1 isCosted
    rw [OspfCost.lacksBandwidth, Bool.and_eq_true, Bool.not_eq_true', Bool.not_eq_true'] at lacks
    exact ⟨router, device, interface, isDevice,
      ⟨runs ▸ rfl, isInterface, active, noCost, lacks.1, lacks.2⟩⟩
  · rintro ⟨router, device, interface, isDevice, misses⟩
    obtain ⟨process, runs⟩ := Option.isSome_iff_exists.1 misses.runsProcess
    have isCosted := OspfCost.mem_costed_iff.2 ⟨runs, misses.isInterface, misses.active⟩
    refine ⟨(router, process, interface),
      OspfCost.mem_derived_iff.2 ⟨device, isDevice, isCosted, misses.noCost⟩, ?_⟩
    rw [OspfCost.lacksBandwidth, misses.notVlan, misses.noBandwidth]
    rfl

/-- If any route misses an edge, one of them is the first. -/
theorem exists_firstWithoutEdge_iff :
    (∃ item, firstWithoutEdge? options adjacency modelled = some item) ↔
      AnyMissesEdge options adjacency modelled := by
  have listedOf : ∀ router device, modelled.get? router = some device →
      ((Topology.infer modelled adjacency).edges.get? router).getD [] =
        Topology.edgesOf modelled adjacency router device := by
    intro router device isDevice
    rw [Topology.getD_edges, isDevice]
    rfl
  rw [← Option.isSome_iff_exists, firstWithoutEdge?, List.find?_isSome]
  constructor
  · rintro ⟨⟨router, listed, route⟩, isListed, unbound⟩
    obtain ⟨device, isDevice, rfl, isRoute⟩ := RouteBinding.mem_routesOf_iff.1 isListed
    obtain ⟨notDiscard, notRealized⟩ := RouteBinding.isUnbound_iff.1 unbound
    rw [listedOf router device isDevice] at notRealized
    exact ⟨router, device, route, isDevice, ⟨isRoute, notDiscard, notRealized⟩⟩
  · rintro ⟨router, device, route, isDevice, misses⟩
    refine ⟨(router, _, route), RouteBinding.mem_routesOf_iff.2
      ⟨device, isDevice, rfl, misses.isRoute⟩, RouteBinding.isUnbound_iff.2 ?_⟩
    rw [listedOf router device isDevice]
    exact ⟨misses.notDiscard, misses.notRealized⟩

/-- A build fails only while costs are resolved or routes are bound. -/
theorem faultOf?_ofDevices (modelled : Table String Device) (adjacency : Adjacency)
    (options : Options) :
    faultOf? (ofDevices modelled adjacency options) =
      (faultOf? (OspfCost.resolve modelled options)).or
        ((faultOf? (RouteBinding.resolve modelled (Topology.infer modelled adjacency).edges
          options)).map .configuration) := by
  obtain ⟨internal, resolved⟩ := InternalSessions.exists_resolve modelled options
  rw [ofDevices, resolved]
  cases OspfCost.resolve modelled options with
  | error fault => rfl
  | ok costs =>
      cases RouteBinding.resolve modelled (Topology.infer modelled adjacency).edges options <;> rfl

theorem build_eq_ofDevices (isSelected : selected devices selection = .ok modelled) :
    build devices adjacency selection options = ofDevices modelled adjacency options := by
  rw [build, isSelected]
  rfl

/-- Costs come before routes, and in both the first culprit decides. -/
theorem faultOf?_build (typed : OspfCost.AreTyped options devices)
    (isSelected : selected devices selection = .ok modelled)
    (finite : OspfCost.QuotientsFinite options modelled) :
    faultOf? (build devices adjacency selection options) =
      ((firstWithoutBandwidth? options modelled).map fun item =>
        .configuration (.missingBandwidth item.1 item.2.2.name)).or
      ((firstWithoutEdge? options adjacency modelled).map fun item =>
        .configuration (.unboundRoute item.1 item.2.2)) := by
  have modelledTyped : OspfCost.AreTyped options modelled :=
    ⟨typed.vlanNameStart, fun router device name interface isDevice =>
      typed.interfaces router device name interface (get?_of_selected isSelected isDevice)⟩
  rw [build_eq_ofDevices isSelected, faultOf?_ofDevices,
    OspfCost.faultOf?_resolve_eq modelledTyped finite, RouteBinding.faultOf?_resolve,
    Option.map_map]
  rfl

/-- A build of well-typed devices fails exactly if an interface misses a bandwidth or a route
misses an edge. The first such interface is told, and only if there is none, the first such
route. -/
theorem build_fails_iff (typed : OspfCost.AreTyped options devices)
    (isSelected : selected devices selection = .ok modelled)
    (finite : OspfCost.QuotientsFinite options modelled) :
    ((∃ fault, build devices adjacency selection options = .error (.configuration fault)) ↔
      AnyMissesBandwidth options modelled ∨ AnyMissesEdge options adjacency modelled) ∧
    (AnyMissesBandwidth options modelled → ∃ router process interface,
      firstWithoutBandwidth? options modelled = some (router, process, interface) ∧
        build devices adjacency selection options =
          .error (.configuration (.missingBandwidth router interface.name))) ∧
    (¬AnyMissesBandwidth options modelled → AnyMissesEdge options adjacency modelled →
      ∃ router listed route,
        firstWithoutEdge? options adjacency modelled = some (router, listed, route) ∧
          build devices adjacency selection options =
            .error (.configuration (.unboundRoute router route))) ∧
    (¬AnyMissesBandwidth options modelled → ¬AnyMissesEdge options adjacency modelled →
      ∃ graph, build devices adjacency selection options = .ok graph) := by
  have faultIs := @faultOf?_build _ _ adjacency _ _ typed isSelected finite
  rw [← exists_firstWithoutBandwidth_iff, ← exists_firstWithoutEdge_iff]
  cases firstInterface : firstWithoutBandwidth? options modelled with
  | some item =>
      have fails : build devices adjacency selection options =
          .error (.configuration (.missingBandwidth item.1 item.2.2.name)) := by
        rw [← faultOf?_eq_some_iff, faultIs, firstInterface]
        rfl
      exact ⟨⟨fun _ => .inl ⟨item, rfl⟩, fun _ => ⟨_, fails⟩⟩, fun _ => ⟨_, _, _, rfl, fails⟩,
        fun missesNone => absurd ⟨item, rfl⟩ missesNone,
        fun missesNone => absurd ⟨item, rfl⟩ missesNone⟩
  | none =>
      have missesNone : ¬∃ item : String × OspfProcess × Interface, none = some item := nofun
      cases firstRoute : firstWithoutEdge? options adjacency modelled with
      | some item =>
          have fails : build devices adjacency selection options =
              .error (.configuration (.unboundRoute item.1 item.2.2)) := by
            rw [← faultOf?_eq_some_iff, faultIs, firstInterface, firstRoute]
            rfl
          exact ⟨⟨fun _ => .inr ⟨item, rfl⟩, fun _ => ⟨_, fails⟩⟩,
            fun misses => absurd misses missesNone, fun _ _ => ⟨_, _, _, rfl, fails⟩,
            fun _ boundAll => absurd ⟨item, rfl⟩ boundAll⟩
      | none =>
          have boundAll : ¬∃ item : String × List Edge × StaticRoute, none = some item := nofun
          obtain ⟨graph, isBuilt⟩ :
              ∃ graph, build devices adjacency selection options = .ok graph := by
            rw [← faultOf?_eq_none_iff, faultIs, firstInterface, firstRoute]
            rfl
          refine ⟨⟨?_, fun misses => (misses.elim missesNone boundAll).elim⟩,
            fun misses => absurd misses missesNone, fun _ misses => absurd misses boundAll,
            fun _ _ => ⟨graph, isBuilt⟩⟩
          rintro ⟨fault, fails⟩
          cases isBuilt.symm.trans fails

/-- A device with a fast interface, one of a virtual network and one of unknown bandwidth, and
with a route through an interface that it does not have. -/
def partlyKnownDevice : Device where
  name := "a"
  interfaces := Table.ofList [
    ("eth0", { name := "eth0", bandwidth := .float 1000000000.0 }),
    ("Vlan10", { name := "Vlan10" }),
    ("eth1", { name := "eth1" })]
  ospf := some {}
  staticRoutes := [{
    destination := { base := .v4 0x0A000000, length := 8, length_le := by decide,
                     aligned := by decide }
    nextHopInterface := .text "eth7" }]

/-- Two copies of a device with a missing bandwidth and an unbound route. -/
def partlyKnownDevices : Table String Device :=
  Table.ofList [("b", partlyKnownDevice), ("a", partlyKnownDevice)]

theorem build_fails_iff_partlyKnownDevices :
    OspfCost.AreTyped {} partlyKnownDevices ∧
      selected partlyKnownDevices .all = .ok partlyKnownDevices ∧
      OspfCost.QuotientsFinite {} partlyKnownDevices ∧
      AnyMissesBandwidth {} partlyKnownDevices ∧
      AnyMissesEdge {} Table.empty partlyKnownDevices ∧
      build partlyKnownDevices Table.empty .all {} =
        .error (.configuration (.missingBandwidth "b" "eth1")) := by
  have interfaces : ∀ entry ∈ partlyKnownDevices.entries, ∀ named ∈ entry.2.interfaces.entries,
      named.2.nameGiven.isNone = true ∧
        (named.2.bandwidth.isNull = true ∨ named.2.bandwidth.isNumeric = true) := by
    decide +kernel
  have typed : OspfCost.AreTyped {} partlyKnownDevices := by
    refine ⟨⟨"vlan", rfl⟩, ?_⟩
    intro router device name interface isDevice isInterface
    obtain ⟨isName, isBandwidth⟩ := interfaces (router, device) (Table.get?_eq_some_iff.1 isDevice)
      (name, interface) (Table.get?_eq_some_iff.1 isInterface)
    exact ⟨Option.isNone_iff_eq_none.1 isName, isBandwidth⟩
  have finite : OspfCost.QuotientsFinite {} partlyKnownDevices := by
    decide +kernel
  have firstInterface : (firstWithoutBandwidth? {} partlyKnownDevices).map
      (fun item => (item.1, item.2.2.name)) = some ("b", "eth1") := by
    decide +kernel
  have firstRoute : (firstWithoutEdge? {} Table.empty partlyKnownDevices).isSome = true := by
    decide +kernel
  obtain ⟨item, isFirst, _⟩ := Option.map_eq_some_iff.1 firstInterface
  have missesBandwidth := exists_firstWithoutBandwidth_iff.1 ⟨item, isFirst⟩
  have missesEdge := exists_firstWithoutEdge_iff.1 (Option.isSome_iff_exists.1 firstRoute)
  have isSelected : selected partlyKnownDevices .all = .ok partlyKnownDevices := rfl
  obtain ⟨router, process, interface, isFirst, fails⟩ :=
    (build_fails_iff typed isSelected finite).2.1 missesBandwidth
  have names : router = "b" ∧ interface.name = "eth1" := by
    rw [isFirst] at firstInterface
    exact Prod.mk.inj (Option.some.inj firstInterface)
  have told : build partlyKnownDevices Table.empty .all {} =
      .error (.configuration (.missingBandwidth router interface.name)) := fails
  rw [names.1, names.2] at told
  exact ⟨typed, isSelected, finite, missesBandwidth, missesEdge, told⟩

end RoutingPlane.Graph
