import RoutingPlane.Proofs.RouteBinding
import RoutingPlane.Proofs.Table.Rows
import RoutingPlane.Proofs.Topology.Edges

/-!
The routes that are bound to each interface. They are the configured routes that an edge takes
from the interface to their next hop, in the order of the configuration and without those that
are equal to an earlier one. The routes are gone through one by one, and a route that several
edges of an interface take is entered once.
-/

namespace RoutingPlane

/-! ## Equal routes -/

theorem Value.text_same_iff {name : String} {value : Value} :
    (text name).same value = true ↔ value = .text name := by
  cases value <;> simp [same, sameScalar, eq_comm]

theorem Value.equals_text_iff {name : String} {value : Value} :
    value.equals (.text name) = true ↔ value = .text name := by
  cases value <;> simp [equals, same, sameScalar]

namespace StaticRoute

variable {route : StaticRoute}

/-- A route is found where it is entered: its next hop is equal to itself, as texts and nothing
are. -/
def IsComparable (route : StaticRoute) : Prop :=
  route.nextHopInterface.same route.nextHopInterface = true

theorem IsComparable.same_self (isComparable : route.IsComparable) : route.same route = true := by
  rw [IsComparable] at isComparable
  simp [same, isComparable]

end StaticRoute

/-- An edge takes a route to its next hop: that is the local interface by its name, or the remote
interface by its address. -/
def Edge.Takes (edge : Edge) (route : StaticRoute) : Prop :=
  route.nextHopInterface = .text edge.near.name ∨
    ∃ far address, edge.far = some far ∧ far.host? = some address ∧
      route.nextHopAddress = some address

theorem StaticRoute.leavesBy_iff {route : StaticRoute} {interface : Interface}
    (givesName : interface.nameGiven = none) :
    route.leavesBy interface = true ↔ route.nextHopInterface = .text interface.name := by
  rw [leavesBy, Interface.nameValue, givesName, Option.getD_none, Bool.and_eq_true,
    Value.equals_text_iff]
  constructor
  · intro leaves
    exact leaves.2
  · intro isName
    rw [isName]
    exact ⟨rfl, rfl⟩

theorem StaticRoute.leadsTo_iff {route : StaticRoute} {interface : Interface} :
    route.leadsTo interface = true ↔
      ∃ address, interface.host? = some address ∧ route.nextHopAddress = some address := by
  rw [leadsTo]
  cases route.nextHopAddress with
  | none => simp
  | some nextHop => cases interface.host? <;> simp

theorem Edge.realizes_iff {edge : Edge} {route : StaticRoute}
    (givesName : edge.near.nameGiven = none) : edge.realizes route = true ↔ edge.Takes route := by
  rw [realizes, Bool.or_eq_true, StaticRoute.leavesBy_iff givesName, Takes]
  cases edge.far with
  | none => simp
  | some far => simp [StaticRoute.leadsTo_iff]

theorem Edge.Takes.of_same {edge : Edge} {left right : StaticRoute}
    (same : left.same right = true) (takes : edge.Takes left) : edge.Takes right := by
  simp only [StaticRoute.same, Bool.and_eq_true, decide_eq_true_eq] at same
  obtain ⟨⟨⟨_, sameAddress⟩, sameInterface⟩, _⟩ := same
  rw [Takes, ← sameAddress]
  refine takes.imp_left fun isName => ?_
  rw [isName, Value.text_same_iff] at sameInterface
  exact sameInterface

namespace RouteBinding

variable {devices : Table String Device} {adjacency : Adjacency} {options : Options}
  {router name interface : String} {listed edges : List Edge} {route : StaticRoute}
  {routes : List StaticRoute} {bound next : RouteTable}

/-- A list of routes and one more, unless an equal one is there. -/
def adding (routes : List StaticRoute) (route : StaticRoute) : List StaticRoute :=
  if routes.any fun other => other.same route then routes else routes ++ [route]

/-- The routes of a list that are not equal to an earlier one that is kept. -/
def distinct (routes : List StaticRoute) : List StaticRoute :=
  routes.foldl adding []

theorem distinct_append (front : List StaticRoute) (last : StaticRoute) :
    distinct (front ++ [last]) = adding (distinct front) last := by
  rw [distinct, List.foldl_append]
  rfl

theorem adding_ne_nil : adding routes route ≠ [] := by
  rw [adding]
  split
  case isTrue isThere =>
    intro isEmpty
    rw [isEmpty] at isThere
    cases isThere
  case isFalse => exact List.concat_ne_nil route routes

theorem mem_adding_of_mem {held : StaticRoute} (isHeld : held ∈ routes) :
    held ∈ adding routes route := by
  rw [adding]
  split
  · exact isHeld
  · exact List.mem_append_left _ isHeld

/-- A route that is added is in the list, or an equal one in its place. -/
theorem exists_alike_mem_adding (routes : List StaticRoute) (route : StaticRoute) :
    ∃ held ∈ adding routes route, held = route ∨ held.same route = true := by
  rw [adding]
  split
  case isTrue isThere =>
    obtain ⟨held, isHeld, isSame⟩ := List.any_eq_true.1 isThere
    exact ⟨held, isHeld, .inr isSame⟩
  case isFalse => exact ⟨route, List.mem_append_right _ List.mem_cons_self, .inl rfl⟩

theorem of_mem_adding {held : StaticRoute} (isHeld : held ∈ adding routes route) :
    held ∈ routes ∨ held = route := by
  rw [adding] at isHeld
  split at isHeld
  · exact .inl isHeld
  · exact (List.mem_append.1 isHeld).imp_right List.mem_singleton.1

theorem exists_same_adding (isComparable : route.IsComparable) :
    ∃ held ∈ adding routes route, held.same route = true := by
  obtain ⟨held, isHeld, rfl | isSame⟩ := exists_alike_mem_adding routes route
  · exact ⟨held, isHeld, isComparable.same_self⟩
  · exact ⟨held, isHeld, isSame⟩

theorem adding_adding (isComparable : route.IsComparable) :
    adding (adding routes route) route = adding routes route := by
  have isThere : ((adding routes route).any fun other => other.same route) = true :=
    List.any_eq_true.2 (exists_same_adding isComparable)
  rw [adding, if_pos isThere]

theorem distinct_sublist (routes : List StaticRoute) : (distinct routes).Sublist routes := by
  induction routes using List.reverseRecOn with
  | nil => exact List.Sublist.refl []
  | append_singleton front last inductionHypothesis =>
      rw [distinct_append, adding]
      split
      · exact inductionHypothesis.trans (List.sublist_append_left _ _)
      · exact inductionHypothesis.append_right [last]

/-- No two of the routes that are kept are equal. -/
theorem pairwise_distinct (routes : List StaticRoute) :
    (distinct routes).Pairwise fun earlier later => earlier.same later = false := by
  induction routes using List.reverseRecOn with
  | nil => exact List.Pairwise.nil
  | append_singleton front last inductionHypothesis =>
      rw [distinct_append, adding]
      split
      case isTrue => exact inductionHypothesis
      case isFalse notThere =>
        rw [List.any_eq_true] at notThere
        refine List.pairwise_append.2 ⟨inductionHypothesis, List.pairwise_singleton _ _, ?_⟩
        intro earlier isHeld later isLast
        rw [List.mem_singleton.1 isLast, ← Bool.not_eq_true]
        intro same
        exact notThere ⟨earlier, isHeld, same⟩

theorem exists_same_distinct (comparable : ∀ route ∈ routes, route.IsComparable)
    (isRoute : route ∈ routes) : ∃ held ∈ distinct routes, held.same route = true := by
  induction routes using List.reverseRecOn with
  | nil => cases isRoute
  | append_singleton front last inductionHypothesis =>
      rw [List.forall_mem_append] at comparable
      rw [distinct_append]
      rcases List.mem_append.1 isRoute with inFront | isLast
      · obtain ⟨held, isHeld, same⟩ := inductionHypothesis comparable.1 inFront
        exact ⟨held, mem_adding_of_mem isHeld, same⟩
      · rw [List.mem_singleton.1 isLast]
        exact exists_same_adding (comparable.2 last List.mem_cons_self)

/-! ## One route -/

/-- The routes that are bound to an interface. -/
def routesAt (bound : RouteTable) (name : String) : List StaticRoute :=
  (bound.get? name).getD []

def NoneEmpty (bound : RouteTable) : Prop :=
  ∀ name routes, bound.get? name = some routes → routes ≠ []

/-- Whether an edge from an interface takes a route to its next hop. -/
def leavesAt (listed : List Edge) (name : String) (route : StaticRoute) : Bool :=
  listed.any fun edge => decide (edge.near.name = name) && edge.realizes route

theorem bindTo_eq (route : StaticRoute) (bound : RouteTable) (interface : String) :
    bindTo route bound interface = bound.put interface (adding (routesAt bound interface) route) :=
  rfl

theorem routesAt_bindTo (route : StaticRoute) (bound : RouteTable) (interface name : String) :
    routesAt (bindTo route bound interface) name =
      if name = interface then adding (routesAt bound name) route else routesAt bound name := by
  rw [bindTo_eq, routesAt, Table.get?_put]
  split
  case isTrue isName => rw [isName, Option.getD_some]
  case isFalse => rfl

theorem NoneEmpty.bindTo (noneEmpty : NoneEmpty bound) (route : StaticRoute)
    (interface : String) : NoneEmpty (bindTo route bound interface) := by
  intro name routes found
  rw [bindTo_eq, Table.get?_put] at found
  split at found
  case isTrue =>
    rw [← Option.some.inj found]
    exact adding_ne_nil
  case isFalse => exact noneEmpty name routes found

/-- Binding a route along several edges enters it once for each interface, even if several of them
start there. -/
theorem routesAt_bindAlong (isComparable : route.IsComparable) (edges : List Edge)
    (bound : RouteTable) (name : String) :
    routesAt (edges.foldl (fun bound edge => bindTo route bound edge.near.name) bound) name =
      if ∃ edge ∈ edges, edge.near.name = name then adding (routesAt bound name) route
      else routesAt bound name := by
  induction edges using List.reverseRecOn with
  | nil => simp
  | append_singleton front last inductionHypothesis =>
      rw [List.foldl_append, List.foldl_cons, List.foldl_nil, routesAt_bindTo,
        inductionHypothesis]
      simp only [List.mem_append, List.mem_singleton, or_and_right, exists_or, exists_eq_left,
        eq_comm (a := name)]
      by_cases isLast : last.near.name = name
      · have isThere : (∃ edge, edge ∈ front ∧ edge.near.name = name) ∨ last.near.name = name :=
          .inr isLast
        rw [if_pos isLast, if_pos isThere]
        split
        · exact adding_adding isComparable
        · rfl
      · rw [if_neg isLast]
        simp only [isLast, or_false]

theorem NoneEmpty.bindAlong (noneEmpty : NoneEmpty bound) (route : StaticRoute)
    (edges : List Edge) :
    NoneEmpty (edges.foldl
      (fun bound edge => RouteBinding.bindTo route bound edge.near.name) bound) := by
  induction edges using List.reverseRecOn with
  | nil => exact noneEmpty
  | append_singleton front last inductionHypothesis =>
      rw [List.foldl_append]
      exact inductionHypothesis.bindTo route last.near.name

theorem leavesAt_iff_exists_filter : leavesAt listed name route = true ↔
    ∃ edge ∈ listed.filter fun edge => edge.realizes route, edge.near.name = name := by
  simp only [leavesAt, List.any_eq_true, List.mem_filter, Bool.and_eq_true, decide_eq_true_eq,
    and_assoc, and_comm (a := _ = name)]

/-- Binding a route adds it where it leaves, and changes nothing else. -/
theorem routesAt_bindRoute (isComparable : route.IsComparable)
    (succeeded : bindRoute router listed options bound route = .ok next) (name : String) :
    routesAt next name =
      if leavesAt listed name route then adding (routesAt bound name) route
      else routesAt bound name := by
  rw [bindRoute] at succeeded
  simp only [leavesAt_iff_exists_filter]
  split at succeeded
  case isTrue noneRealizes =>
    have noEdge : ¬∃ edge ∈ listed.filter fun edge => edge.realizes route,
        edge.near.name = name := by
      rw [List.isEmpty_iff.1 noneRealizes]
      intro hasEdge
      obtain ⟨_, isEdge, _⟩ := hasEdge
      cases isEdge
    rw [if_neg noEdge]
    split at succeeded
    · rw [Except.ok.inj succeeded]
    · cases succeeded
  case isFalse =>
    rw [← Except.ok.inj succeeded]
    exact routesAt_bindAlong isComparable _ bound name

theorem NoneEmpty.bindRoute (noneEmpty : NoneEmpty bound)
    (succeeded : bindRoute router listed options bound route = .ok next) : NoneEmpty next := by
  rw [RouteBinding.bindRoute] at succeeded
  split at succeeded
  · split at succeeded
    · rw [← Except.ok.inj succeeded]
      exact noneEmpty
    · cases succeeded
  · rw [← Except.ok.inj succeeded]
    exact noneEmpty.bindAlong route _

/-! ## All routes of a device -/

theorem bindRoutes_append_eq_ok_iff {front : List StaticRoute} {last : StaticRoute} :
    bindRoutes router listed options (front ++ [last]) = .ok next ↔
      ∃ bound, bindRoutes router listed options front = .ok bound ∧
        bindRoute router listed options bound last = .ok next := by
  rw [bindRoutes, List.foldlM_append, bind_eq_ok_iff]
  simp only [List.foldlM_cons, List.foldlM_nil, bind_pure]
  rfl

/-- The routes at an interface are those that are bound there, each where it was bound first. The
last route meets what those in front of it left, at this interface as at any other. -/
theorem routesAt_bindRoutes (comparable : ∀ route ∈ routes, route.IsComparable)
    (succeeded : bindRoutes router listed options routes = .ok bound) (name : String) :
    routesAt bound name = distinct (routes.filter (leavesAt listed name)) := by
  induction routes using List.reverseRecOn generalizing bound with
  | nil =>
      rw [← Except.ok.inj succeeded]
      rfl
  | append_singleton front last inductionHypothesis =>
      obtain ⟨middle, frontSucceeded, lastSucceeded⟩ := bindRoutes_append_eq_ok_iff.1 succeeded
      rw [List.forall_mem_append] at comparable
      rw [routesAt_bindRoute (comparable.2 last List.mem_cons_self) lastSucceeded,
        inductionHypothesis comparable.1 frontSucceeded, List.filter_append]
      cases leaves : leavesAt listed name last with
      | true => rw [if_pos rfl, List.filter_cons_of_pos leaves, List.filter_nil, distinct_append]
      | false =>
          rw [if_neg Bool.false_ne_true, List.filter_cons_of_neg (by simp [leaves]),
            List.filter_nil, List.append_nil]

theorem noneEmpty_bindRoutes (succeeded : bindRoutes router listed options routes = .ok bound) :
    NoneEmpty bound := by
  induction routes using List.reverseRecOn generalizing bound with
  | nil =>
      rw [← Except.ok.inj succeeded]
      intro name held found
      cases found
  | append_singleton front last inductionHypothesis =>
      obtain ⟨middle, frontSucceeded, lastSucceeded⟩ := bindRoutes_append_eq_ok_iff.1 succeeded
      exact (inductionHypothesis frontSucceeded).bindRoute lastSucceeded

theorem isUnbound_eq_false_of_bindRoutes
    (succeeded : bindRoutes router listed options routes = .ok bound) (isRoute : route ∈ routes) :
    isUnbound options listed route = false := by
  have noFault := faultOf?_eq_none_iff.2 ⟨bound, succeeded⟩
  rw [faultOf?_bindRoutes, List.findSome?_eq_none_iff] at noFault
  rw [← Bool.not_eq_true]
  intro unbound
  have told := noFault route isRoute
  rw [if_pos unbound] at told
  cases told

theorem leavesAt_iff (named : ∀ edge ∈ listed, edge.near.nameGiven = none) :
    leavesAt listed name route = true ↔
      ∃ edge ∈ listed, edge.near.name = name ∧ edge.Takes route := by
  simp only [leavesAt, List.any_eq_true, Bool.and_eq_true, decide_eq_true_eq]
  refine exists_congr fun edge => and_congr_right fun isListed => ?_
  rw [Edge.realizes_iff (named edge isListed)]

/-- What the bound routes of a device with some edges and some configured routes are. -/
structure BindsRoutes (options : Options) (listed : List Edge) (routes : List StaticRoute)
    (bound : RouteTable) : Prop where
  /-- A configured route is among those of an interface exactly if an edge takes it from there
  to its next hop. -/
  contains : ∀ name, ∀ route ∈ routes, (∃ held ∈ routesAt bound name, held.same route = true) ↔
    ∃ edge ∈ listed, edge.near.name = name ∧ edge.Takes route
  /-- The routes of an interface are configured routes in the order of the configuration. -/
  ordered : ∀ name, (routesAt bound name).Sublist routes
  /-- The routes of an interface are not equal to each other. -/
  distinct : ∀ name, (routesAt bound name).Pairwise fun earlier later =>
    earlier.same later = false
  noneEmpty : NoneEmpty bound
  /-- An edge starts at every interface that has routes. -/
  starts : ∀ name ∈ bound.keys, ∃ edge ∈ listed, edge.near.name = name
  /-- Every route that does not discard traffic is bound to an interface. -/
  complete : ∀ route ∈ routes, route.isDiscard options = false →
    ∃ name, ∃ held ∈ routesAt bound name, held.same route = true

/-- The bound routes of a device are its configured ones at the interfaces by which they leave, in
their order and without repeats. -/
theorem bindRoutes_bindsRoutes (named : ∀ edge ∈ listed, edge.near.nameGiven = none)
    (comparable : ∀ route ∈ routes, route.IsComparable)
    (succeeded : bindRoutes router listed options routes = .ok bound) :
    BindsRoutes options listed routes bound := by
  have contains : ∀ name, ∀ route ∈ routes,
      (∃ held ∈ routesAt bound name, held.same route = true) ↔
        ∃ edge ∈ listed, edge.near.name = name ∧ edge.Takes route := by
    intro name route isRoute
    rw [routesAt_bindRoutes comparable succeeded]
    constructor
    · intro isThere
      obtain ⟨held, isHeld, same⟩ := isThere
      obtain ⟨_, leaves⟩ := List.mem_filter.1 ((distinct_sublist _).subset isHeld)
      obtain ⟨edge, isListed, isName, takes⟩ := (leavesAt_iff named).1 leaves
      exact ⟨edge, isListed, isName, takes.of_same same⟩
    · intro isTaken
      have leaves := (leavesAt_iff named).2 isTaken
      apply exists_same_distinct
      · intro other isOther
        exact comparable other (List.mem_filter.1 isOther).1
      · exact List.mem_filter.2 ⟨isRoute, leaves⟩
  constructor
  case contains => exact contains
  case ordered =>
    intro name
    rw [routesAt_bindRoutes comparable succeeded]
    exact (distinct_sublist _).trans List.filter_sublist
  case distinct =>
    intro name
    rw [routesAt_bindRoutes comparable succeeded]
    exact pairwise_distinct _
  case noneEmpty => exact noneEmpty_bindRoutes succeeded
  case starts =>
    intro name isKey
    obtain ⟨held, isBound⟩ := Table.mem_keys_iff_exists.1 isKey
    have isHeld : routesAt bound name = held := by
      rw [routesAt, isBound, Option.getD_some]
    obtain ⟨route, isRoute⟩ :=
      List.exists_mem_of_ne_nil held (noneEmpty_bindRoutes succeeded name held isBound)
    rw [← isHeld, routesAt_bindRoutes comparable succeeded] at isRoute
    obtain ⟨_, leaves⟩ := List.mem_filter.1 ((distinct_sublist _).subset isRoute)
    obtain ⟨edge, isListed, isName, _⟩ := (leavesAt_iff named).1 leaves
    exact ⟨edge, isListed, isName⟩
  case complete =>
    intro route isRoute notDiscard
    have isBound := isUnbound_eq_false_of_bindRoutes succeeded isRoute
    rw [isUnbound, notDiscard, Bool.not_false, Bool.true_and, Bool.not_eq_false'] at isBound
    obtain ⟨edge, isListed, realizes⟩ := List.any_eq_true.1 isBound
    have takes := (Edge.realizes_iff (named edge isListed)).1 realizes
    exact ⟨edge.near.name, (contains _ route isRoute).2 ⟨edge, isListed, rfl, takes⟩⟩

/-! ## All devices -/

/-- The names of interfaces are texts, and every route is equal to itself. -/
structure AreTyped (devices : Table String Device) : Prop where
  name : ∀ router device, devices.get? router = some device →
    ∀ name interface, device.interfaces.get? name = some interface → interface.nameGiven = none
  route : ∀ router device, devices.get? router = some device →
    ∀ route ∈ device.staticRoutes, route.IsComparable

/-- Where routes are bound over the inferred edges, every device has the bound routes that its
edges and its configured routes determine. -/
theorem resolve_bindsRoutes (typed : AreTyped devices) (adjacency : Adjacency)
    {bindings : Table String RouteTable}
    (resolved : resolve devices (Topology.infer devices adjacency).edges options = .ok bindings) :
    (∀ router, router ∈ bindings.keys ↔ router ∈ devices.keys) ∧
      ∀ router device, devices.get? router = some device → ∃ bound,
        bindings.get? router = some bound ∧
          BindsRoutes options (((Topology.infer devices adjacency).edges.get? router).getD [])
            device.staticRoutes bound := by
  obtain ⟨rows, traversed, resolved⟩ := bind_eq_ok_iff.1 resolved
  have succeeded : devices.rows (fun router device => bindRoutes router
      (((Topology.infer devices adjacency).edges.get? router).getD []) options
        device.staticRoutes) = .ok rows := traversed
  rw [← pure_eq_ok_iff.1 resolved]
  constructor
  · intro router
    rw [Table.mem_keys_ofList_iff, Table.keys_of_rows succeeded]
  · intro router device isDevice
    obtain ⟨bound, isBound⟩ := Table.exists_rows_iff.1 ⟨rows, succeeded⟩ router device isDevice
    refine ⟨bound, (Table.get?_ofList_rows_iff succeeded).2 ⟨device, isDevice, isBound⟩, ?_⟩
    apply bindRoutes_bindsRoutes _ (typed.route router device isDevice) isBound
    intro edge isListed
    obtain ⟨owner, isOwner, isEdge⟩ := Topology.mem_getD_edges_iff.1 isListed
    obtain ⟨name, isInterface⟩ := Topology.exists_near_of_mem_edgesOf isEdge
    exact typed.name router owner isOwner name edge.near isInterface

/-- A device with a route that names its next hop twice and is repeated, a route to two
interfaces, one of the other version and one that discards traffic. -/
def repeatedRoutes : Value :=
  .map [
    (.text "devices", .map [
      (.text "a", .map [
        (.text "interfaces", .map [
          (.text "eth0", .map [(.text "prefix", .text "10.0.0.1/24")]),
          (.text "eth1", .map [(.text "prefix", .text "10.0.1.1/24")]),
          (.text "eth2", .map [(.text "prefix", .text "fd00::1/64")])]),
        (.text "static_routes", .list [
          .map [(.text "network", .text "10.9.0.0/16"), (.text "next_hop_ip", .text "10.0.0.2"),
            (.text "next_hop_interface", .text "eth0")],
          .map [(.text "network", .text "fd09::/64"), (.text "next_hop_ip", .text "fd00::2")],
          .map [(.text "network", .text "10.9.0.0/16"), (.text "next_hop_ip", .text "10.0.0.2"),
            (.text "next_hop_interface", .text "eth0")],
          .map [(.text "network", .text "10.7.0.0/16"),
            (.text "next_hop_interface", .text "null_interface")],
          .map [(.text "network", .text "10.8.0.0/16"), (.text "next_hop_ip", .text "10.0.0.2"),
            (.text "next_hop_interface", .text "eth1")]])]),
      (.text "b", .map [(.text "interfaces", .map [
        (.text "eth0", .map [(.text "prefix", .text "10.0.0.2/24")]),
        (.text "eth2", .map [(.text "prefix", .text "fd00::2/64")])])])]),
    (.text "links", .list [
      .list [.text "a:eth0", .text "b:eth0"], .list [.text "a:eth2", .text "b:eth2"]])]

theorem resolve_bindsRoutes_repeatedRoutes :
    ∃ snapshot device bindings bound,
      Snapshot.read Snapshot.standardPath repeatedRoutes = .ok snapshot ∧
      snapshot.devices.get? "a" = some device ∧ AreTyped snapshot.devices ∧
      resolve snapshot.devices (Topology.infer snapshot.devices snapshot.adjacency).edges
        snapshot.options = .ok bindings ∧
      bindings.get? "a" = some bound ∧
      bound.entries.map (fun entry => (entry.1, entry.2.map fun route => route.destination.text)) =
        [("eth0", ["10.9.0.0/16", "10.8.0.0/16"]), ("eth2", ["fd09::/64"]),
          ("eth1", ["10.8.0.0/16"])] ∧
      BindsRoutes snapshot.options
        (((Topology.infer snapshot.devices snapshot.adjacency).edges.get? "a").getD [])
        device.staticRoutes bound := by
  have evaluated : (Snapshot.read Snapshot.standardPath repeatedRoutes).toOption.any
      (fun snapshot =>
        (resolve snapshot.devices (Topology.infer snapshot.devices snapshot.adjacency).edges
            snapshot.options).toOption.any fun bindings =>
          (bindings.get? "a").any fun bound => decide (
            (∀ entry ∈ snapshot.devices.entries,
              (∀ named ∈ entry.2.interfaces.entries, named.2.nameGiven.isNone = true) ∧
                ∀ route ∈ entry.2.staticRoutes,
                  route.nextHopInterface.same route.nextHopInterface = true) ∧
            bound.entries.map (fun entry =>
                (entry.1, entry.2.map fun route => route.destination.text)) =
              [("eth0", ["10.9.0.0/16", "10.8.0.0/16"]), ("eth2", ["fd09::/64"]),
                ("eth1", ["10.8.0.0/16"])])) = true := by
    decide +kernel
  obtain ⟨snapshot, isRead, evaluated⟩ := exists_ok_of_any evaluated
  obtain ⟨bindings, resolved, evaluated⟩ := exists_ok_of_any evaluated
  obtain ⟨bound, isBound, evaluated⟩ := (Option.any_eq_true _ _).1 evaluated
  obtain ⟨parts, isShown⟩ := of_decide_eq_true evaluated
  have typed : AreTyped snapshot.devices := by
    constructor
    case name =>
      intro router device isDevice name interface isInterface
      have isGiven := (parts (router, device) (Table.get?_eq_some_iff.1 isDevice)).1
        (name, interface) (Table.get?_eq_some_iff.1 isInterface)
      exact Option.isNone_iff_eq_none.1 isGiven
    case route =>
      intro router device isDevice
      exact (parts (router, device) (Table.get?_eq_some_iff.1 isDevice)).2
  obtain ⟨sameKeys, bindsAll⟩ := resolve_bindsRoutes typed snapshot.adjacency resolved
  have isKey := (sameKeys "a").1 (Table.mem_keys_iff_exists.2 ⟨bound, isBound⟩)
  obtain ⟨device, isDevice⟩ := Table.mem_keys_iff_exists.1 isKey
  obtain ⟨other, isOther, binds⟩ := bindsAll "a" device isDevice
  rw [isBound, Option.some.injEq] at isOther
  rw [← isOther] at binds
  exact ⟨snapshot, device, bindings, bound, isRead, isDevice, typed, resolved, isBound, isShown,
    binds⟩

end RouteBinding

end RoutingPlane
