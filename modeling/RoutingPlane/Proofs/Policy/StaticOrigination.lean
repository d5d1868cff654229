import RoutingPlane.Policy.Origination
import RoutingPlane.Proofs.Graph.Parts
import RoutingPlane.Proofs.Topology.BoundRoutes
import RoutingPlane.Proofs.Value.Equality

/-!
The static routes that a device injects. They are read off the configuration, where those that
discard traffic are left out, and they are the networks of the routes that are bound to interfaces.
A route that is bound is a configured one, and a configured one that does not discard traffic is
bound, unless an equal one is bound in its place: that one has the same network, and as equality
of values is symmetric and transitive it does not discard traffic either. A route that discards
traffic may be bound, too, by its address.
-/

namespace RoutingPlane

namespace RouteBinding

variable {devices : Table String Device} {edges : Table String (List Edge)} {options : Options}
  {router interface : String} {listed along : List Edge} {edge : Edge} {route : StaticRoute}
  {routes : List StaticRoute} {bound middle next : RouteTable}

/-! ## One route -/

/-- A route is entered at interfaces, and nothing else changes. -/
structure Enters (route : StaticRoute) (bound next : RouteTable) : Prop where
  kept : ∀ name, ∀ held ∈ routesAt bound name, held ∈ routesAt next name
  source : ∀ name, ∀ held ∈ routesAt next name, held ∈ routesAt bound name ∨ held = route

/-- A route, or an equal one, is bound to an interface. -/
def StandsIn (route : StaticRoute) (bound : RouteTable) : Prop :=
  ∃ name, ∃ held ∈ routesAt bound name, held = route ∨ held.same route = true

theorem Enters.refl (route : StaticRoute) (bound : RouteTable) : Enters route bound bound :=
  ⟨fun _ _ isHeld => isHeld, fun _ _ isHeld => .inl isHeld⟩

theorem Enters.trans (first : Enters route bound middle) (second : Enters route middle next) :
    Enters route bound next where
  kept name held isHeld := second.kept name held (first.kept name held isHeld)
  source name held isHeld :=
    (second.source name held isHeld).elim (first.source name held) Or.inr

theorem StandsIn.mono {entered : StaticRoute} (stands : StandsIn route bound)
    (enters : Enters entered bound next) : StandsIn route next := by
  obtain ⟨name, held, isHeld, alike⟩ := stands
  exact ⟨name, held, enters.kept name held isHeld, alike⟩

theorem enters_bindTo (route : StaticRoute) (bound : RouteTable) (interface : String) :
    Enters route bound (bindTo route bound interface) := by
  constructor
  case kept =>
    intro name held isHeld
    rw [routesAt_bindTo]
    split
    · exact mem_adding_of_mem isHeld
    · exact isHeld
  case source =>
    intro name held isHeld
    rw [routesAt_bindTo] at isHeld
    split at isHeld
    · exact of_mem_adding isHeld
    · exact .inl isHeld

theorem standsIn_bindTo (route : StaticRoute) (bound : RouteTable) (interface : String) :
    StandsIn route (bindTo route bound interface) := by
  refine ⟨interface, ?_⟩
  rw [routesAt_bindTo, if_pos rfl]
  exact exists_alike_mem_adding _ _

theorem enters_bindAlong (route : StaticRoute) (bound : RouteTable) (along : List Edge) :
    Enters route bound
      (along.foldl (fun bound edge => bindTo route bound edge.near.name) bound) := by
  induction along generalizing bound with
  | nil => exact .refl route bound
  | cons head rest inductionHypothesis =>
      exact (enters_bindTo route bound head.near.name).trans (inductionHypothesis _)

theorem standsIn_bindAlong (route : StaticRoute) (bound : RouteTable) (nonempty : along ≠ []) :
    StandsIn route (along.foldl (fun bound edge => bindTo route bound edge.near.name) bound) := by
  obtain ⟨head, rest, rfl⟩ := List.exists_cons_of_ne_nil nonempty
  exact (standsIn_bindTo route bound head.near.name).mono (enters_bindAlong route _ rest)

theorem enters_bindRoute (succeeded : bindRoute router listed options bound route = .ok next) :
    Enters route bound next := by
  rw [bindRoute] at succeeded
  split at succeeded
  · split at succeeded
    · cases succeeded
      exact .refl route bound
    · cases succeeded
  · cases succeeded
    exact enters_bindAlong route bound _

/-- A route that does not discard traffic is bound, as the graph could not be built otherwise. -/
theorem standsIn_bindRoute (succeeded : bindRoute router listed options bound route = .ok next)
    (notDiscard : route.isDiscard options = false) : StandsIn route next := by
  rw [bindRoute] at succeeded
  split at succeeded
  · rw [notDiscard, if_neg Bool.false_ne_true] at succeeded
    cases succeeded
  case isFalse someRealizes =>
    cases succeeded
    exact standsIn_bindAlong route bound (List.isEmpty_iff.not.1 someRealizes)

/-! ## All routes of a device -/

/-- What is bound is configured, and what is configured and does not discard traffic is bound. -/
structure HoldsConfigured (options : Options) (routes : List StaticRoute) (bound : RouteTable) :
    Prop where
  source : ∀ name, ∀ held ∈ routesAt bound name, held ∈ routes
  stands : ∀ route ∈ routes, route.isDiscard options = false → StandsIn route bound

/-- The routes of a device are bound one after the other, and each step keeps what holds of those
before it. -/
theorem bindRoutes_holdsConfigured
    (succeeded : bindRoutes router listed options routes = .ok bound) :
    HoldsConfigured options routes bound := by
  induction routes using List.reverseRecOn generalizing bound with
  | nil =>
      rw [← Except.ok.inj succeeded]
      exact ⟨fun _ _ isHeld => isHeld, fun _ isRoute => absurd isRoute List.not_mem_nil⟩
  | append_singleton front last inductionHypothesis =>
      obtain ⟨middle, frontSucceeded, lastSucceeded⟩ := bindRoutes_append_eq_ok_iff.1 succeeded
      have holds := inductionHypothesis frontSucceeded
      have enters := enters_bindRoute lastSucceeded
      constructor
      case source =>
        intro name held isHeld
        rcases enters.source name held isHeld with isEarlier | isLast
        · exact List.mem_append_left _ (holds.source name held isEarlier)
        · exact List.mem_append_right _ (List.mem_singleton.2 isLast)
      case stands =>
        intro route isRoute notDiscard
        rcases List.mem_append.1 isRoute with inFront | isLast
        · exact (holds.stands route inFront notDiscard).mono enters
        · rw [List.mem_singleton.1 isLast] at notDiscard ⊢
          exact standsIn_bindRoute lastSucceeded notDiscard

/-- The next hops of routes are values as there are: no set in them repeats a member and no
mapping a key. -/
def AreProper (routes : List StaticRoute) : Prop :=
  ∀ route ∈ routes, route.nextHopInterface.IsProper

/-- A route does not discard traffic if one that is equal to it does not. -/
theorem isDiscard_eq_false_of_same {held : StaticRoute} (proper : held.nextHopInterface.IsProper)
    (isSame : held.same route = true) (notDiscard : route.isDiscard options = false) :
    held.isDiscard options = false := by
  simp only [StaticRoute.same, Bool.and_eq_true] at isSame
  rw [← Bool.not_eq_true]
  intro discards
  have alsoDiscards : route.isDiscard options = true :=
    proper.equals_of_same isSame.1.2 discards
  rw [notDiscard] at alsoDiscards
  cases alsoDiscards

/-- The networks of the bound routes that do not discard traffic are those of the configured ones
that do not. -/
theorem HoldsConfigured.exists_bound_iff (holds : HoldsConfigured options routes bound)
    (proper : AreProper routes) {network : Network} :
    (∃ name, ∃ held ∈ routesAt bound name,
        held.isDiscard options = false ∧ held.destination = network) ↔
      ∃ route ∈ routes, route.isDiscard options = false ∧ route.destination = network := by
  constructor
  · rintro ⟨name, held, isHeld, notDiscard, isNetwork⟩
    exact ⟨held, holds.source name held isHeld, notDiscard, isNetwork⟩
  · rintro ⟨route, isRoute, notDiscard, isNetwork⟩
    obtain ⟨name, held, isHeld, rfl | isSame⟩ := holds.stands route isRoute notDiscard
    · exact ⟨name, held, isHeld, notDiscard, isNetwork⟩
    · have isProper := proper held (holds.source name held isHeld)
      have sameNetwork : held.destination = route.destination := by
        simp only [StaticRoute.same, Bool.and_eq_true, decide_eq_true_eq] at isSame
        exact isSame.1.1.1
      exact ⟨name, held, isHeld, isDiscard_eq_false_of_same isProper isSame notDiscard,
        sameNetwork.trans isNetwork⟩

/-- Every device has the routes that are bound for it alone. -/
theorem exists_bound_of_resolve {bindings : Table String RouteTable} {device : Device}
    (resolved : resolve devices edges options = .ok bindings)
    (isDevice : devices.get? router = some device) :
    ∃ bound, bindings.get? router = some bound ∧
      bindRoutes router ((edges.get? router).getD []) options device.staticRoutes = .ok bound := by
  obtain ⟨rows, traversed, resolved⟩ := bind_eq_ok_iff.1 resolved
  have succeeded : devices.rows (fun router device => bindRoutes router
      ((edges.get? router).getD []) options device.staticRoutes) = .ok rows := traversed
  rw [← pure_eq_ok_iff.1 resolved]
  obtain ⟨bound, isBound⟩ := Table.exists_rows_iff.1 ⟨rows, succeeded⟩ router device isDevice
  exact ⟨bound, (Table.get?_ofList_rows_iff succeeded).2 ⟨device, isDevice, isBound⟩, isBound⟩

end RouteBinding

/-! ## What a device injects -/

/-- The networks that a device injects as static routes, each once. -/
theorem Device.exists_originated_static (device : Device) (options : Options) :
    ∃ networks, device.originated .static options = .ok { networks } ∧ networks.Nodup ∧
      ∀ network, network ∈ networks ↔ ∃ route ∈ device.staticRoutes,
        route.isDiscard options = false ∧ route.destination = network := by
  refine ⟨_, rfl, nodup_eraseDups _, ?_⟩
  intro network
  rw [List.mem_eraseDups]
  simp only [List.mem_map, List.mem_filter, Bool.not_eq_true', and_assoc]

/-- In a graph, a device injects exactly the networks of the static routes that are bound to one
of its interfaces and do not discard traffic, each once. -/
theorem Graph.originated_static_iff_bound {devices : Table String Device} {adjacency : Adjacency}
    {selection : Selection} {options : Options} {graph : Graph} {router : String}
    {device : Device} (isBuilt : build devices adjacency selection options = .ok graph)
    (isDevice : graph.devices.get? router = some device)
    (proper : RouteBinding.AreProper device.staticRoutes) :
    ∃ bound networks, graph.bindings.get? router = some bound ∧
      device.originated .static graph.options = .ok { networks } ∧ networks.Nodup ∧
      ∀ network, network ∈ networks ↔
        ∃ name routes, bound.get? name = some routes ∧ ∃ route ∈ routes,
          route.isDiscard graph.options = false ∧ route.destination = network := by
  obtain ⟨internal, parts⟩ := build_eq_ok_iff.1 isBuilt
  obtain ⟨bound, isBound, succeeded⟩ :=
    RouteBinding.exists_bound_of_resolve parts.bindings isDevice
  obtain ⟨networks, injected, once, injects⟩ := device.exists_originated_static graph.options
  have holds := RouteBinding.bindRoutes_holdsConfigured succeeded
  refine ⟨bound, networks, isBound, injected, once, ?_⟩
  intro network
  rw [injects, ← holds.exists_bound_iff proper]
  refine exists_congr fun name => ?_
  rw [RouteBinding.routesAt]
  cases bound.get? name <;> simp

/-- A device with two routes to one network, one that discards traffic, and one that does so and
names the address of a neighbor, too. -/
def discardedRoutes : Value :=
  .map [
    (.text "devices", .map [
      (.text "a", .map [
        (.text "interfaces", .map [
          (.text "eth0", .map [(.text "prefix", .text "10.0.0.1/24")])]),
        (.text "static_routes", .list [
          .map [(.text "network", .text "10.9.0.0/16"), (.text "next_hop_ip", .text "10.0.0.2")],
          .map [(.text "network", .text "10.9.0.0/16"), (.text "next_hop_interface", .text "eth0")],
          .map [(.text "network", .text "10.7.0.0/16"),
            (.text "next_hop_interface", .text "null_interface")],
          .map [(.text "network", .text "10.6.0.0/16"), (.text "next_hop_ip", .text "10.0.0.2"),
            (.text "next_hop_interface", .text "null_interface")],
          .map [(.text "network", .text "10.8.0.0/16"),
            (.text "next_hop_interface", .text "eth0")]])]),
      (.text "b", .map [
        (.text "interfaces", .map [
          (.text "eth0", .map [(.text "prefix", .text "10.0.0.2/24")])])])]),
    (.text "links", .list [.list [.text "a:eth0", .text "b:eth0"]])]

theorem Graph.originated_static_iff_bound_discardedRoutes :
    ∃ snapshot graph device, Snapshot.read Snapshot.standardPath discardedRoutes = .ok snapshot ∧
      snapshot.build .all = .ok graph ∧ graph.devices.get? "a" = some device ∧
      RouteBinding.AreProper device.staticRoutes ∧
      ∃ bound networks, graph.bindings.get? "a" = some bound ∧
        (bound.entries.map fun entry => (entry.1, entry.2.map fun route => route.destination.text)) =
          [("eth0", ["10.9.0.0/16", "10.9.0.0/16", "10.6.0.0/16", "10.8.0.0/16"])] ∧
        device.originated .static graph.options = .ok { networks } ∧
        networks.map Network.text = ["10.9.0.0/16", "10.8.0.0/16"] ∧ networks.Nodup ∧
        ∀ network, network ∈ networks ↔
          ∃ name routes, bound.get? name = some routes ∧ ∃ route ∈ routes,
            route.isDiscard graph.options = false ∧ route.destination = network := by
  have evaluated : (Snapshot.read Snapshot.standardPath discardedRoutes).toOption.any
      (fun snapshot => (snapshot.build .all).toOption.any fun graph =>
        (graph.devices.get? "a").any fun device => (graph.bindings.get? "a").any fun bound =>
          (device.originated .static graph.options).toOption.any fun injected => decide (
            (∀ route ∈ device.staticRoutes, route.nextHopInterface.meaning?.isSome = true) ∧
            bound.entries.map (fun entry =>
                (entry.1, entry.2.map fun route => route.destination.text)) =
              [("eth0", ["10.9.0.0/16", "10.9.0.0/16", "10.6.0.0/16", "10.8.0.0/16"])] ∧
            injected.networks.map Network.text = ["10.9.0.0/16", "10.8.0.0/16"])) = true := by
    decide +kernel
  obtain ⟨snapshot, isRead, evaluated⟩ := exists_ok_of_any evaluated
  obtain ⟨graph, isBuilt, evaluated⟩ := exists_ok_of_any evaluated
  obtain ⟨device, isDevice, evaluated⟩ := (Option.any_eq_true _ _).1 evaluated
  obtain ⟨bound, isBound, evaluated⟩ := (Option.any_eq_true _ _).1 evaluated
  obtain ⟨injected, isInjected, evaluated⟩ := exists_ok_of_any evaluated
  obtain ⟨haveMeaning, boundShown, injectedShown⟩ := of_decide_eq_true evaluated
  have proper : RouteBinding.AreProper device.staticRoutes := by
    intro route isRoute
    obtain ⟨meaning, means⟩ := Option.isSome_iff_exists.1 (haveMeaning route isRoute)
    exact .of_meaning means
  obtain ⟨other, networks, isOther, injects, once, isExact⟩ :=
    originated_static_iff_bound isBuilt isDevice proper
  obtain rfl := Option.some.inj (isBound.symm.trans isOther)
  obtain rfl := Except.ok.inj (isInjected.symm.trans injects)
  exact ⟨snapshot, graph, device, isRead, isBuilt, isDevice, proper, bound, networks, isBound,
    boundShown, injects, injectedShown, once, isExact⟩

end RoutingPlane
