import RoutingPlane.Proofs.EdgeMap.Lookup
import RoutingPlane.Proofs.Snapshot.Names
import RoutingPlane.Topology

/-!
The edges of a topology. If interfaces stand under their own names, an inferred
edge is determined by its key, because its ends are the interfaces that the key
names. The opposite directions are then those of the edges, in any order.
-/

namespace RoutingPlane

theorem Edge.opposite?_eq_some_iff {edge opposite : Edge} :
    edge.opposite? = some opposite ↔
      ∃ peer far, edge.peer = some peer ∧ edge.far = some far ∧
        opposite = ⟨peer, far, some edge.router, some edge.near, edge.abstract⟩ := by
  rw [Edge.opposite?]
  cases edge.peer with
  | none => simp
  | some peer => cases edge.far <;> simp [eq_comm]

theorem Edge.opposite?_opposite? {edge opposite : Edge}
    (isOpposite : edge.opposite? = some opposite) : opposite.opposite? = some edge := by
  obtain ⟨peer, far, isPeer, isFar, rfl⟩ := Edge.opposite?_eq_some_iff.1 isOpposite
  obtain ⟨router, near, _, _, abstract⟩ := edge
  cases isPeer
  cases isFar
  rfl

namespace Topology

variable {devices left right : Table String Device} {adjacency : Adjacency}

theorem interfaceAt?_eq_some_iff {ref : InterfaceRef} {interface : Interface} :
    interfaceAt? devices ref = some interface ↔
      ∃ device, devices.get? ref.device = some device ∧
        device.interfaces.get? ref.interface = some interface := by
  unfold interfaceAt?
  cases devices.get? ref.device <;> simp

theorem name_of_interfaceAt? (named : WellNamed devices) {ref : InterfaceRef}
    {interface : Interface} (found : interfaceAt? devices ref = some interface) :
    interface.name = ref.interface := by
  obtain ⟨device, isDevice, isInterface⟩ := interfaceAt?_eq_some_iff.1 found
  exact named ref.device device isDevice ref.interface interface isInterface

/-! ## The edges of a device -/

theorem mem_ends_iff {ref other : InterfaceRef} {far : Interface} :
    (other, far) ∈ ends devices adjacency ref ↔
      other ∈ (adjacency.get? ref).getD [] ∧ interfaceAt? devices other = some far := by
  simp only [ends, List.mem_mergeSort, List.mem_filterMap, Option.map_eq_some_iff,
    Prod.mk.injEq]
  constructor
  · intro isFound
    obtain ⟨listed, isListed, interface, found, rfl, rfl⟩ := isFound
    exact ⟨isListed, found⟩
  · intro isMet
    obtain ⟨isListed, found⟩ := isMet
    exact ⟨other, isListed, far, found, rfl, rfl⟩

/-- An interface with an address has a dangling edge, or an edge to each of its ends on
another device if it has at most two ends. -/
theorem mem_edgesFrom_iff {router name : String} {interface : Interface} {edge : Edge} :
    edge ∈ edgesFrom devices adjacency router name interface ↔
      interface.address.isSome = true ∧
        (edge = danglingEdge router interface ∧
            (ends devices adjacency ⟨router, name⟩ = [] ∨
              2 < (ends devices adjacency ⟨router, name⟩).length) ∨
          (ends devices adjacency ⟨router, name⟩).length ≤ 2 ∧
            ∃ other far, (other, far) ∈ ends devices adjacency ⟨router, name⟩ ∧
              other.device ≠ router ∧ edge = linkEdge router interface other.device far) := by
  simp only [edgesFrom]
  cases hasAddress : interface.address with
  | none => simp
  | some address =>
      generalize ends devices adjacency ⟨router, name⟩ = found
      have crowded : (found.isEmpty || decide (maxSegmentEnds < found.length)) = true ↔
          found = [] ∨ 2 < found.length := by
        rw [Bool.or_eq_true, List.isEmpty_iff, decide_eq_true_eq]
        rfl
      rw [Option.isNone_some, if_neg Bool.false_ne_true, Option.isSome_some]
      by_cases dangles : found = [] ∨ 2 < found.length
      · have noEnd : ¬(found.length ≤ 2 ∧ ∃ other far, (other, far) ∈ found ∧
            other.device ≠ router ∧ edge = linkEdge router interface other.device far) := by
          rintro ⟨few, other, far, isEnd, _⟩
          rcases dangles with isEmpty | tooMany
          · rw [isEmpty] at isEnd
            cases isEnd
          · omega
        simp only [if_pos (crowded.2 dangles), List.mem_singleton, dangles, noEnd, and_true,
          or_false, true_and]
      · have few : found.length ≤ 2 := by omega
        rw [if_neg (mt crowded.1 dangles)]
        simp only [List.mem_map, List.mem_filter, decide_eq_true_eq, Prod.exists, dangles, few,
          and_false, false_or, true_and, and_assoc, @eq_comm _ edge]

/-- An edge from an interface dangles or leads to one of the interface's ends. -/
theorem of_mem_edgesFrom {router name : String} {interface : Interface} {edge : Edge}
    (isEdge : edge ∈ edgesFrom devices adjacency router name interface) :
    edge = danglingEdge router interface ∨
      ∃ other far, (other, far) ∈ ends devices adjacency ⟨router, name⟩ ∧
        other.device ≠ router ∧ edge = linkEdge router interface other.device far :=
  (mem_edgesFrom_iff.1 isEdge).2.imp And.left And.right

theorem mem_edgesOf_iff {router : String} {device : Device} {edge : Edge} :
    edge ∈ edgesOf devices adjacency router device ↔
      ∃ name interface, device.interfaces.get? name = some interface ∧
        edge ∈ edgesFrom devices adjacency router name interface := by
  simp only [edgesOf, List.mem_flatMap, Prod.exists, Table.get?_eq_some_iff]

/-- The ends of an edge are the interfaces that its key names. -/
structure Grounded (devices : Table String Device) (edge : Edge) : Prop where
  concrete : edge.abstract = false
  near : interfaceAt? devices ⟨edge.router, edge.near.name⟩ = some edge.near
  far : (edge.peer = none ∧ edge.far = none) ∨
    ∃ peer far, edge.peer = some peer ∧ edge.far = some far ∧
      interfaceAt? devices ⟨peer, far.name⟩ = some far

/-- Edges of one device with equal keys are the same: their remote ends both dangle, or are the
interface of one device with one name. -/
theorem Grounded.eq_of_key_eq {edge other : Edge} (grounded : Grounded devices edge)
    (otherGrounded : Grounded devices other) (sameKey : edge.key = other.key) :
    edge = other := by
  obtain ⟨router, near, peer, far, abstract⟩ := edge
  obtain ⟨otherRouter, otherNear, otherPeer, otherFar, otherAbstract⟩ := other
  simp only [Edge.key, EdgeKey.mk.injEq] at sameKey
  obtain ⟨rfl, sameNear, rfl, sameFar, rfl⟩ := sameKey
  have nearFound := grounded.near
  have otherNearFound := otherGrounded.near
  simp only at nearFound otherNearFound
  rw [sameNear, otherNearFound, Option.some.injEq] at nearFound
  subst nearFound
  rcases grounded.far with ⟨noPeer, noFar⟩ | ⟨name, interface, isPeer, isFar, isFound⟩
  · rcases otherGrounded.far with ⟨_, otherNoFar⟩ | ⟨_, _, otherIsPeer, _, _⟩
    · simp only at noFar otherNoFar
      subst noFar otherNoFar
      rfl
    · simp only at noPeer otherIsPeer
      rw [noPeer] at otherIsPeer
      cases otherIsPeer
  · rcases otherGrounded.far with
      ⟨otherNoPeer, _⟩ | ⟨otherName, otherInterface, otherIsPeer, otherIsFar, otherFound⟩
    · simp only at isPeer otherNoPeer
      rw [isPeer] at otherNoPeer
      cases otherNoPeer
    · simp only at isPeer isFar otherIsPeer otherIsFar
      subst isFar otherIsFar
      rw [isPeer, Option.some.injEq] at otherIsPeer
      subst otherIsPeer
      simp only [Option.map_some, Option.some.injEq] at sameFar
      rw [sameFar, otherFound, Option.some.injEq] at isFound
      subst isFound
      rfl

theorem Grounded.opposite {edge opposite : Edge} (grounded : Grounded devices edge)
    (isOpposite : edge.opposite? = some opposite) : Grounded devices opposite := by
  obtain ⟨peer, far, isPeer, isFar, rfl⟩ := Edge.opposite?_eq_some_iff.1 isOpposite
  have farFound : interfaceAt? devices ⟨peer, far.name⟩ = some far := by
    rcases grounded.far with ⟨noPeer, _⟩ | ⟨otherPeer, otherFar, otherIsPeer, otherIsFar, isFound⟩
    · rw [isPeer] at noPeer
      cases noPeer
    · cases isPeer.symm.trans otherIsPeer
      cases isFar.symm.trans otherIsFar
      exact isFound
  exact ⟨grounded.concrete, farFound, .inr ⟨edge.router, edge.near, rfl, rfl, grounded.near⟩⟩

theorem router_of_mem_edgesOf {router : String} {device : Device} {edge : Edge}
    (isEdge : edge ∈ edgesOf devices adjacency router device) : edge.router = router := by
  obtain ⟨name, interface, _, isFrom⟩ := mem_edgesOf_iff.1 isEdge
  rcases of_mem_edgesFrom isFrom with rfl | ⟨other, far, _, _, rfl⟩ <;> rfl

theorem exists_near_of_mem_edgesOf {router : String} {device : Device} {edge : Edge}
    (isEdge : edge ∈ edgesOf devices adjacency router device) :
    ∃ name, device.interfaces.get? name = some edge.near := by
  obtain ⟨name, interface, isInterface, isFrom⟩ := mem_edgesOf_iff.1 isEdge
  rcases of_mem_edgesFrom isFrom with rfl | ⟨other, far, _, _, rfl⟩ <;> exact ⟨name, isInterface⟩

theorem concrete_of_mem_edgesOf {router : String} {device : Device} {edge : Edge}
    (isEdge : edge ∈ edgesOf devices adjacency router device) : edge.abstract = false := by
  obtain ⟨name, interface, _, isFrom⟩ := mem_edgesOf_iff.1 isEdge
  rcases of_mem_edgesFrom isFrom with rfl | ⟨other, far, _, _, rfl⟩ <;> rfl

/-- The ends of an edge are interfaces of existing devices. -/
theorem grounded_of_mem_edgesOf (named : WellNamed devices) {router : String}
    {device : Device} (isDevice : devices.get? router = some device) {edge : Edge}
    (isEdge : edge ∈ edgesOf devices adjacency router device) : Grounded devices edge := by
  obtain ⟨name, interface, isInterface, isFrom⟩ := mem_edgesOf_iff.1 isEdge
  have ownName : interface.name = name :=
    named router device isDevice name interface isInterface
  have nearFound : interfaceAt? devices ⟨router, interface.name⟩ = some interface :=
    interfaceAt?_eq_some_iff.2 ⟨device, isDevice, ownName ▸ isInterface⟩
  rcases of_mem_edgesFrom isFrom with rfl | ⟨other, far, isEnd, _, rfl⟩
  · exact ⟨rfl, nearFound, .inl ⟨rfl, rfl⟩⟩
  · have farFound := (mem_ends_iff.1 isEnd).2
    have farName : far.name = other.interface := name_of_interfaceAt? named farFound
    exact ⟨rfl, nearFound, .inr ⟨other.device, far, rfl, rfl, by rw [farName]; exact farFound⟩⟩

/-! ## Opposite directions -/

theorem mem_reversePairs_iff {edge : Edge} {pair : Edge × Edge} :
    pair ∈ reversePairs edge ↔
      ∃ opposite, edge.opposite? = some opposite ∧
        (pair = (edge, opposite) ∨ pair = (opposite, edge)) := by
  unfold reversePairs
  cases edge.opposite? <;> simp

abbrev oppositePairs (devices : Table String Device) (adjacency : Adjacency) :
    List (Edge × Edge) :=
  (infer devices adjacency).edges.values.flatten.flatMap reversePairs

/-- A topology lists the edges of the devices that it is inferred from. -/
theorem getD_edges (router : String) :
    ((infer devices adjacency).edges.get? router).getD [] =
      ((devices.get? router).map (edgesOf devices adjacency router)).getD [] := by
  rw [infer, Table.get?_mapValues]

theorem mem_getD_edges_iff {router : String} {edge : Edge} :
    edge ∈ ((infer devices adjacency).edges.get? router).getD [] ↔
      ∃ device, devices.get? router = some device ∧
        edge ∈ edgesOf devices adjacency router device := by
  rw [getD_edges]
  cases devices.get? router <;> simp

/-! What a topology lists for a name are edges of the device with this name. -/

section Listed

variable {router other : String} {edge otherEdge : Edge}

theorem router_of_listed (isListed : edge ∈ ((infer devices adjacency).edges.get? router).getD []) :
    edge.router = router := by
  obtain ⟨device, _, isEdge⟩ := mem_getD_edges_iff.1 isListed
  exact router_of_mem_edgesOf isEdge

theorem concrete_of_listed
    (isListed : edge ∈ ((infer devices adjacency).edges.get? router).getD []) :
    edge.abstract = false := by
  obtain ⟨device, _, isEdge⟩ := mem_getD_edges_iff.1 isListed
  exact concrete_of_mem_edgesOf isEdge

theorem grounded_of_listed (named : WellNamed devices)
    (isListed : edge ∈ ((infer devices adjacency).edges.get? router).getD []) :
    Grounded devices edge := by
  obtain ⟨device, isDevice, isEdge⟩ := mem_getD_edges_iff.1 isListed
  exact grounded_of_mem_edgesOf named isDevice isEdge

/-- The names at the ends of a listed edge tell the whole of it. -/
theorem eq_of_listed (named : WellNamed devices)
    (isListed : edge ∈ ((infer devices adjacency).edges.get? router).getD [])
    (isOther : otherEdge ∈ ((infer devices adjacency).edges.get? other).getD [])
    (sameKey : edge.key = otherEdge.key) : edge = otherEdge :=
  (grounded_of_listed named isListed).eq_of_key_eq (grounded_of_listed named isOther) sameKey

end Listed

theorem mem_allEdges_iff {edge : Edge} :
    edge ∈ (infer devices adjacency).edges.values.flatten ↔
      ∃ router device, devices.get? router = some device ∧
        edge ∈ edgesOf devices adjacency router device := by
  simp only [infer, List.mem_flatten, Table.mem_values_iff, Table.get?_mapValues,
    Option.map_eq_some_iff]
  constructor
  · intro isListed
    obtain ⟨_, ⟨router, device, isDevice, rfl⟩, isEdge⟩ := isListed
    exact ⟨router, device, isDevice, isEdge⟩
  · intro isListed
    obtain ⟨router, device, isDevice, isEdge⟩ := isListed
    exact ⟨_, ⟨router, device, isDevice, rfl⟩, isEdge⟩

theorem grounded_of_mem_oppositePairs (named : WellNamed devices) {pair : Edge × Edge}
    (isPair : pair ∈ oppositePairs devices adjacency) :
    Grounded devices pair.1 ∧ pair.1.opposite? = some pair.2 := by
  obtain ⟨edge, isEdge, fromEdge⟩ := List.mem_flatMap.1 isPair
  obtain ⟨router, device, isDevice, isListed⟩ := mem_allEdges_iff.1 isEdge
  have grounded := grounded_of_mem_edgesOf named isDevice isListed
  obtain ⟨opposite, isOpposite, rfl | rfl⟩ := mem_reversePairs_iff.1 fromEdge
  · exact ⟨grounded, isOpposite⟩
  · exact ⟨grounded.opposite isOpposite, Edge.opposite?_opposite? isOpposite⟩

theorem consistent_oppositePairs (named : WellNamed devices) :
    EdgeMap.Consistent (oppositePairs devices adjacency) := by
  intro left isLeft right isRight sameKey
  obtain ⟨leftGrounded, leftOpposite⟩ := grounded_of_mem_oppositePairs named isLeft
  obtain ⟨rightGrounded, rightOpposite⟩ := grounded_of_mem_oppositePairs named isRight
  have sameEdge := leftGrounded.eq_of_key_eq rightGrounded sameKey
  rw [sameEdge, rightOpposite, Option.some.injEq] at leftOpposite
  exact Prod.ext sameEdge leftOpposite.symm

/-! ## Devices in another order -/

theorem interfaceAt?_congr (same : left.SameMap right) :
    interfaceAt? left = interfaceAt? right := by
  funext ref
  simp only [interfaceAt?, same _]

theorem ends_congr (same : left.SameMap right) (adjacency : Adjacency) :
    ends left adjacency = ends right adjacency := by
  funext ref
  rw [ends, ends, interfaceAt?_congr same]

theorem edgesOf_congr (same : left.SameMap right) (adjacency : Adjacency) :
    edgesOf left adjacency = edgesOf right adjacency := by
  funext router device
  have sameFrom : edgesFrom left adjacency = edgesFrom right adjacency := by
    funext router name interface
    rw [edgesFrom, edgesFrom, ends_congr same]
  rw [edgesOf, edgesOf, sameFrom]

theorem sameMap_edges (same : left.SameMap right) (adjacency : Adjacency) :
    (infer left adjacency).edges.SameMap (infer right adjacency).edges := by
  simp only [infer, edgesOf_congr same]
  exact same.mapValues _

theorem sameMap_neighbors (same : left.SameMap right) (adjacency : Adjacency) :
    (infer left adjacency).neighbors.SameMap (infer right adjacency).neighbors :=
  (sameMap_edges same adjacency).mapValues _

theorem mem_oppositePairs_congr (same : left.SameMap right) {pair : Edge × Edge} :
    pair ∈ oppositePairs left adjacency ↔ pair ∈ oppositePairs right adjacency := by
  simp only [oppositePairs, List.mem_flatMap, mem_allEdges_iff, edgesOf_congr same, same _]

end Topology

end RoutingPlane
