import RoutingPlane.Proofs.Bgp.Resolution
import RoutingPlane.Proofs.Graph.DeviceOrder
import RoutingPlane.Proofs.Graph.Selection

/-!
The opposite directions of the edges of a graph. Both directions of every link and of
every session are entered, and two edges with one key have opposites with one key. So
it does not matter how often a direction is entered, and that the interfaces may stand
under other names than their own: the opposite of the opposite of an edge is that edge.
-/

namespace RoutingPlane

/-- Two keys of edges between the same interfaces of two devices, in opposite
directions. -/
structure EdgeKey.Opposes (key opposite : EdgeKey) : Prop where
  peer : key.peer = some opposite.router
  far : key.far = some opposite.near
  peerBack : opposite.peer = some key.router
  farBack : opposite.far = some key.near
  sameKind : opposite.abstract = key.abstract

theorem EdgeKey.opposes_iff {router near peer far : String} {abstract : Bool} {other : EdgeKey} :
    EdgeKey.Opposes ⟨router, near, some peer, some far, abstract⟩ other ↔
      other = ⟨peer, far, some router, some near, abstract⟩ := by
  obtain ⟨otherRouter, otherNear, otherPeer, otherFar, otherAbstract⟩ := other
  constructor
  · rintro ⟨peer, far, peerBack, farBack, sameKind⟩
    simp_all
  · rintro same
    cases same
    exact ⟨rfl, rfl, rfl, rfl, rfl⟩

namespace EdgeKey.Opposes

variable {key opposite other : EdgeKey}

theorem symm (opposes : key.Opposes opposite) : opposite.Opposes key where
  peer := opposes.peerBack
  far := opposes.farBack
  peerBack := opposes.peer
  farBack := opposes.far
  sameKind := opposes.sameKind.symm

theorem unique (opposes : key.Opposes opposite) (otherOpposes : key.Opposes other) :
    opposite = other := by
  obtain ⟨router, near, peer, far, abstract⟩ := key
  obtain rfl : peer = some opposite.router := opposes.peer
  obtain rfl : far = some opposite.near := opposes.far
  rw [opposes_iff] at opposes otherOpposes
  exact opposes.trans otherOpposes.symm

end EdgeKey.Opposes

/-- Both directions of every edge are among some pairs of opposite edges, and no edge
leads back to its own device. -/
def PairsUp (pairs : List (Edge × Edge)) : Prop :=
  ∀ pair ∈ pairs, pair.1.key.Opposes pair.2.key ∧ pair.1.router ≠ pair.2.router ∧
    ∃ back ∈ pairs, back.1.key = pair.2.key

theorem PairsUp.append {front back : List (Edge × Edge)} (pairsFront : PairsUp front)
    (pairsBack : PairsUp back) : PairsUp (front ++ back) := by
  intro pair isPair
  rcases List.mem_append.1 isPair with inFront | inBack
  · obtain ⟨opposes, apart, other, isOther, isBack⟩ := pairsFront pair inFront
    exact ⟨opposes, apart, other, List.mem_append_left _ isOther, isBack⟩
  · obtain ⟨opposes, apart, other, isOther, isBack⟩ := pairsBack pair inBack
    exact ⟨opposes, apart, other, List.mem_append_right _ isOther, isBack⟩

/-- Every edge that has an opposite one differs from it and is the opposite of it. -/
def IsInvolution (reverse : EdgeMap Edge) : Prop :=
  ∀ key opposite, reverse.get? key = some opposite →
    key.Opposes opposite.key ∧ opposite.key ≠ key ∧
      ∃ back, reverse.get? opposite.key = some back ∧ back.key = key

/-- Edges that are entered in pairs lead back to each other. What is found back may be another edge,
but it has the only key that opposes. -/
theorem PairsUp.isInvolution {pairs : List (Edge × Edge)} (pairsUp : PairsUp pairs) :
    IsInvolution (EdgeMap.ofList pairs) := by
  have opposes : ∀ key opposite, (EdgeMap.ofList pairs).get? key = some opposite →
      key.Opposes opposite.key ∧ key.router ≠ opposite.router ∧
        ∃ back, (EdgeMap.ofList pairs).get? opposite.key = some back := by
    intro key opposite isOpposite
    obtain ⟨edge, isPair, rfl⟩ := EdgeMap.exists_of_get?_ofList isOpposite
    obtain ⟨opposes, apart, isEntered⟩ := pairsUp _ isPair
    have contained := EdgeMap.contains_ofList_iff.2 isEntered
    exact ⟨opposes, apart, Option.isSome_iff_exists.1 contained⟩
  intro key opposite isOpposite
  obtain ⟨keyOpposes, apart, back, isBack⟩ := opposes key opposite isOpposite
  have backOpposes := (opposes opposite.key back isBack).1
  refine ⟨keyOpposes, ?_, back, isBack, backOpposes.unique keyOpposes.symm⟩
  intro same
  exact apart (congrArg EdgeKey.router same).symm

/-- An edge has both its remote ends or none, and is among some pairs of opposite edges
if it has them. -/
structure PairedIn (pairs : List (Edge × Edge)) (edge : Edge) : Prop where
  bothEnds : edge.peer.isSome = true ↔ edge.far.isSome = true
  entered : edge.peer.isSome = true → ∃ pair ∈ pairs, pair.1.key = edge.key

theorem PairedIn.mono {pairs more : List (Edge × Edge)} {edge : Edge} (paired : PairedIn pairs edge)
    (included : pairs ⊆ more) : PairedIn more edge where
  bothEnds := paired.bothEnds
  entered hasPeer := by
    obtain ⟨pair, isPair, sameKey⟩ := paired.entered hasPeer
    exact ⟨pair, included isPair, sameKey⟩

/-! ## Links -/

theorem Edge.opposes_opposite? {edge opposite : Edge} (isOpposite : edge.opposite? = some opposite) :
    edge.key.Opposes opposite.key := by
  obtain ⟨peer, far, isPeer, isFar, rfl⟩ := Edge.opposite?_eq_some_iff.1 isOpposite
  constructor <;> simp [Edge.key, isPeer, isFar]

namespace Topology

variable {devices : Table String Device} {adjacency : Adjacency}

theorem apart_of_mem_edgesOf {router : String} {device : Device} {edge opposite : Edge}
    (isEdge : edge ∈ edgesOf devices adjacency router device)
    (isOpposite : edge.opposite? = some opposite) : edge.router ≠ opposite.router := by
  obtain ⟨name, interface, _, isFrom⟩ := mem_edgesOf_iff.1 isEdge
  rcases of_mem_edgesFrom isFrom with rfl | ⟨other, far, _, differs, rfl⟩
  · simp [Edge.opposite?, danglingEdge] at isOpposite
  · simp only [Edge.opposite?, linkEdge, Option.some.injEq] at isOpposite
    subst isOpposite
    exact Ne.symm differs

/-- Opposite links are entered in both directions. -/
theorem pairsUp_oppositePairs (devices : Table String Device) (adjacency : Adjacency) :
    PairsUp (oppositePairs devices adjacency) := by
  intro pair isPair
  obtain ⟨edge, isEdge, fromEdge⟩ := List.mem_flatMap.1 isPair
  obtain ⟨router, device, _, isListed⟩ := mem_allEdges_iff.1 isEdge
  obtain ⟨opposite, isOpposite, isPair⟩ := mem_reversePairs_iff.1 fromEdge
  have opposes := Edge.opposes_opposite? isOpposite
  have apart := apart_of_mem_edgesOf isListed isOpposite
  have forward : (edge, opposite) ∈ oppositePairs devices adjacency :=
    List.mem_flatMap.2 ⟨edge, isEdge, mem_reversePairs_iff.2 ⟨opposite, isOpposite, .inl rfl⟩⟩
  have backward : (opposite, edge) ∈ oppositePairs devices adjacency :=
    List.mem_flatMap.2 ⟨edge, isEdge, mem_reversePairs_iff.2 ⟨opposite, isOpposite, .inr rfl⟩⟩
  rcases isPair with rfl | rfl
  · exact ⟨opposes, apart, _, backward, rfl⟩
  · exact ⟨opposes.symm, Ne.symm apart, _, forward, rfl⟩

theorem pairedIn_of_mem_edgesOf {router : String} {device : Device} {edge : Edge}
    (isDevice : devices.get? router = some device)
    (isEdge : edge ∈ edgesOf devices adjacency router device) :
    PairedIn (oppositePairs devices adjacency) edge := by
  have isListed := mem_allEdges_iff.2 ⟨router, device, isDevice, isEdge⟩
  have entered : ∀ opposite, edge.opposite? = some opposite →
      ∃ pair ∈ oppositePairs devices adjacency, pair.1.key = edge.key := by
    intro opposite isOpposite
    have forward := mem_reversePairs_iff.2 ⟨opposite, isOpposite, .inl rfl⟩
    exact ⟨(edge, opposite), List.mem_flatMap.2 ⟨edge, isListed, forward⟩, rfl⟩
  obtain ⟨name, interface, _, isFrom⟩ := mem_edgesOf_iff.1 isEdge
  rcases of_mem_edgesFrom isFrom with rfl | ⟨other, far, _, _, rfl⟩
  · constructor <;> simp [danglingEdge]
  · exact ⟨by simp [linkEdge], fun _ => entered _ rfl⟩

end Topology

/-! ## Sessions -/

namespace InternalSessions

variable {devices : Table String Device} {options : Options} {internal : InternalSessions}
  {pair : DevicePair}

theorem opposes_sessionEdge (opens : HasSession devices pair)
    (answers : HasSession devices (pair.2, pair.1)) :
    (sessionEdge devices options pair).key.Opposes
      (sessionEdge devices options (pair.2, pair.1)).key := by
  obtain ⟨neighbor, isFirst⟩ := hasSession_iff.1 opens
  obtain ⟨answer, answersFirst⟩ := hasSession_iff.1 answers
  simp only at answersFirst
  constructor <;> simp [Edge.key, sessionEdge, carrier, isFirst, answersFirst]

theorem pairsUp_reverse (succeeded : resolve devices options = .ok internal) :
    PairsUp internal.reverse.entries := by
  rintro ⟨edge, opposite⟩ isReverse
  obtain ⟨pair, opens, answers, rfl, rfl⟩ :=
    mutual_iff.1 ((mem_reverse_iff succeeded).1 isReverse)
  have isBack : (sessionEdge devices options (pair.2, pair.1), sessionEdge devices options pair) ∈
      internal.reverse.entries :=
    (mem_reverse_iff succeeded).2 (mutual_iff.2 ⟨(pair.2, pair.1), answers, opens, rfl, rfl⟩)
  exact ⟨opposes_sessionEdge opens answers, opens.1, _, isBack, rfl⟩

/-- The edge of a session has both its remote ends or none, and an opposite if it has them. -/
theorem pairedIn_of_mem_edges (succeeded : resolve devices options = .ok internal)
    {router : String} {edge : Edge} (isEdge : edge ∈ (internal.edges.get? router).getD []) :
    PairedIn internal.reverse.entries edge := by
  rw [getD_edges succeeded] at isEdge
  obtain ⟨pair, isKept, rfl⟩ := List.mem_map.1 isEdge
  have opens := mem_keys_discover_iff.1 (List.mem_filter.1 isKept).1
  constructor
  case bothEnds => simp [sessionEdge]
  case entered =>
    intro hasPeer
    simp only [sessionEdge, Option.isSome_map, Option.isSome_iff_exists] at hasPeer
    have answers : HasSession devices (pair.2, pair.1) := hasSession_iff.2 hasPeer
    have isMutual : Mutual devices options (sessionEdge devices options pair)
        (sessionEdge devices options (pair.2, pair.1)) :=
      mutual_iff.2 ⟨pair, opens, answers, rfl, rfl⟩
    exact ⟨_, (mem_reverse_iff succeeded).2 isMutual, rfl⟩

end InternalSessions

/-! ## Graphs -/

namespace Graph

variable {devices : Table String Device} {adjacency : Adjacency} {selection : Selection}
  {options : Options} {graph : Graph}

/-- The links and the sessions that the edges of a graph come from. -/
structure ListsEdges (devices : Table String Device) (adjacency : Adjacency)
    (selection : Selection) (graph : Graph) (internal : InternalSessions) : Prop where
  isSelected : selected devices selection = .ok graph.devices
  resolved : InternalSessions.resolve graph.devices graph.options = .ok internal
  listed : ∀ router, graph.edgesOf router =
    if (graph.devices.get? router).isSome then
      ((Topology.infer graph.devices adjacency).edges.get? router).getD [] ++
        (internal.edges.get? router).getD []
    else []
  reverse : graph.reverse = EdgeMap.ofList
    (Topology.oppositePairs graph.devices adjacency ++ internal.reverse.entries)

theorem exists_listsEdges (isBuilt : build devices adjacency selection options = .ok graph) :
    ∃ internal, ListsEdges devices adjacency selection graph internal := by
  obtain ⟨internal, parts⟩ := build_eq_ok_iff.1 isBuilt
  refine ⟨internal, parts.isSelected, parts.resolved, ?_, parts.reverse⟩
  intro router
  rw [edgesOf, parts.edges, getD_allEdges]

theorem ListsEdges.isInvolution {internal : InternalSessions}
    (lists : ListsEdges devices adjacency selection graph internal) : IsInvolution graph.reverse := by
  have links := Topology.pairsUp_oppositePairs graph.devices adjacency
  have sessions := InternalSessions.pairsUp_reverse lists.resolved
  rw [lists.reverse]
  exact (links.append sessions).isInvolution

/-- The edges of links are paired with opposites of links, those of sessions with
opposites of sessions. -/
theorem ListsEdges.pairedIn {internal : InternalSessions}
    (lists : ListsEdges devices adjacency selection graph internal) {router : String} {edge : Edge}
    (isListed : edge ∈ graph.edgesOf router) :
    PairedIn (Topology.oppositePairs graph.devices adjacency ++ internal.reverse.entries) edge := by
  rw [lists.listed] at isListed
  split at isListed
  · rcases List.mem_append.1 isListed with isLink | isSession
    · obtain ⟨device, isDevice, isLink⟩ := Topology.mem_getD_edges_iff.1 isLink
      exact (Topology.pairedIn_of_mem_edgesOf isDevice isLink).mono (List.subset_append_left _ _)
    · exact (InternalSessions.pairedIn_of_mem_edges lists.resolved isSession).mono
        (List.subset_append_right _ _)
  · cases isListed

/-- Going to the opposite of an edge and back leads to the edge itself, which is another
one; and of the listed edges, those with a remote device have an opposite. -/
theorem reverse_isInvolution (isBuilt : build devices adjacency selection options = .ok graph) :
    IsInvolution graph.reverse ∧ ∀ router, ∀ edge ∈ graph.edgesOf router,
      (graph.reverse.contains edge.key = true ↔ edge.peer.isSome = true) ∧
        (edge.peer.isSome = true ↔ edge.far.isSome = true) := by
  obtain ⟨internal, lists⟩ := exists_listsEdges isBuilt
  refine ⟨lists.isInvolution, ?_⟩
  intro router edge isListed
  have paired := lists.pairedIn isListed
  have peerOfContained : graph.reverse.contains edge.key = true → edge.peer.isSome = true := by
    intro isContained
    obtain ⟨opposite, isOpposite⟩ := Option.isSome_iff_exists.1 isContained
    have peer := (lists.isInvolution edge.key opposite isOpposite).1.peer
    exact Option.isSome_iff_exists.2 ⟨_, peer⟩
  have containedOfPeer : edge.peer.isSome = true → graph.reverse.contains edge.key = true := by
    intro hasPeer
    rw [lists.reverse, EdgeMap.contains_ofList_iff]
    exact paired.entered hasPeer
  exact ⟨⟨peerOfContained, containedOfPeer⟩, paired.bothEnds⟩

/-- A link that one end names twice and the other one does not. -/
def repeatedLink : Adjacency :=
  Table.ofList [(⟨"a", "eth0"⟩, [⟨"b", "eth0"⟩, ⟨"b", "eth0"⟩])]

theorem reverse_isInvolution_repeatedLink :
    ∃ graph, build segment repeatedLink .all {} = .ok graph ∧
      IsInvolution graph.reverse ∧ ∀ router, ∀ edge ∈ graph.edgesOf router,
        (graph.reverse.contains edge.key = true ↔ edge.peer.isSome = true) ∧
          (edge.peer.isSome = true ↔ edge.far.isSome = true) := by
  have evaluated : (build segment repeatedLink .all {}).isOk = true := by decide +kernel
  obtain ⟨graph, isBuilt⟩ := isOk_iff_exists.1 evaluated
  exact ⟨graph, isBuilt, reverse_isInvolution isBuilt⟩

end Graph

end RoutingPlane
