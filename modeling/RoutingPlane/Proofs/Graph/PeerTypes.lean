import RoutingPlane.Proofs.Bgp.Hierarchy
import RoutingPlane.Proofs.Bgp.MutualSessions
import RoutingPlane.Proofs.Graph.Reverse

/-!
The relations that the two ends of a session inside an autonomous system have to each
other. Each end looks first whether the other one is its reflector, so the two relations
complement each other unless both devices are clients of one another.
-/

namespace RoutingPlane

def PeerType.byReflectors (reflectorOf : Table String String) (device peer : String) : PeerType :=
  if reflectorOf.get? device = some peer then .toReflector
  else if reflectorOf.get? peer = some device then .toClient
  else .toNonclient

/-- The relations at the two ends of a session fit: one end is a client exactly if the
other one is its reflector. -/
def PeerType.Complements (there back : PeerType) : Prop :=
  (there = .toReflector ↔ back = .toClient) ∧ (there = .toNonclient ↔ back = .toNonclient)

theorem PeerType.byReflectors_complements_iff (reflectorOf : Table String String)
    (device peer : String) :
    (byReflectors reflectorOf device peer).Complements (byReflectors reflectorOf peer device) ↔
      ¬(reflectorOf.get? device = some peer ∧ reflectorOf.get? peer = some device) := by
  unfold Complements byReflectors
  by_cases isClient : reflectorOf.get? device = some peer <;>
    by_cases isReflector : reflectorOf.get? peer = some device <;>
      simp [isClient, isReflector]

theorem PeerType.byReflectors_eq_toNonclient_iff (reflectorOf : Table String String)
    (device peer : String) :
    byReflectors reflectorOf device peer = .toNonclient ↔
      reflectorOf.get? device ≠ some peer ∧ reflectorOf.get? peer ≠ some device := by
  unfold byReflectors
  by_cases isClient : reflectorOf.get? device = some peer <;>
    by_cases isReflector : reflectorOf.get? peer = some device <;>
      simp [isClient, isReflector]

theorem Topology.concrete_of_mem_oppositePairs {devices : Table String Device}
    {adjacency : Adjacency} {pair : Edge × Edge} (isPair : pair ∈ oppositePairs devices adjacency) :
    pair.1.abstract = false := by
  obtain ⟨edge, isEdge, fromEdge⟩ := List.mem_flatMap.1 isPair
  obtain ⟨router, device, _, isListed⟩ := mem_allEdges_iff.1 isEdge
  have isConcrete := concrete_of_mem_edgesOf isListed
  obtain ⟨opposite, isOpposite, rfl | rfl⟩ := mem_reversePairs_iff.1 fromEdge
  · exact isConcrete
  · exact (Edge.opposes_opposite? isOpposite).sameKind.trans isConcrete

namespace Graph

variable {devices : Table String Device} {adjacency : Adjacency} {selection : Selection}
  {options : Options} {graph : Graph} {internal : InternalSessions} {key : EdgeKey}
  {opposite : Edge} {pair : DevicePair}

/-- Two devices are the reflectors of each other. -/
def ReflectEachOther (graph : Graph) (device peer : String) : Prop :=
  graph.reflectorOf.get? device = some peer ∧ graph.reflectorOf.get? peer = some device

namespace BuiltWith

variable (parts : BuiltWith devices adjacency selection options graph internal)

include parts

theorem not_external_of_abstract (isAbstract : key.abstract = true) :
    graph.external.contains key = false := by
  rw [Bool.eq_false_iff, parts.external, ExternalSessions.resolve, ne_eq,
    EdgeMap.contains_ofList_iff]
  rintro ⟨⟨edge, neighbor⟩, isSession, rfl⟩
  obtain ⟨router, device, _, isEdge, _⟩ := ExternalSessions.mem_found_iff.1 isSession
  have isConcrete := Topology.concrete_of_listed isEdge
  exact Bool.false_ne_true (isConcrete.symm.trans isAbstract)

/-- An abstract edge with an opposite is that of a session which both devices open. -/
theorem exists_pair_of_reverse (isAbstract : key.abstract = true)
    (isOpposite : graph.reverse.get? key = some opposite) :
    ∃ pair, InternalSessions.HasSession graph.devices pair ∧
      InternalSessions.HasSession graph.devices pair.swap ∧
        key = (InternalSessions.sessionEdge graph.devices graph.options pair).key ∧
          opposite = InternalSessions.sessionEdge graph.devices graph.options pair.swap := by
  rw [parts.reverse] at isOpposite
  obtain ⟨edge, isPair, rfl⟩ := EdgeMap.exists_of_get?_ofList isOpposite
  rcases List.mem_append.1 isPair with isLink | isReverse
  · have isConcrete := Topology.concrete_of_mem_oppositePairs isLink
    exact absurd (isConcrete.symm.trans isAbstract) Bool.false_ne_true
  · obtain ⟨pair, opens, answers, rfl, rfl⟩ := InternalSessions.mutual_iff.1
      ((InternalSessions.mem_reverse_iff parts.resolved).1 isReverse)
    exact ⟨pair, opens, answers, rfl, rfl⟩

theorem isClient_iff (reflector client : String) :
    isClient graph.clients reflector client = true ↔
      graph.reflectorOf.get? client = some reflector := by
  rw [isClient, List.contains_iff_mem, parts.clients, parts.reflectorOf,
    InternalSessions.mem_clients_iff parts.resolved]

/-- Across a session that both devices open, the reflectors decide the relation. The sessions
between systems, which are asked first, do not have its edge. -/
theorem peerType_sessionEdge (opens : InternalSessions.HasSession graph.devices pair)
    (answers : InternalSessions.HasSession graph.devices pair.swap) :
    graph.peerType (InternalSessions.sessionEdge graph.devices graph.options pair).key =
      .ok (PeerType.byReflectors graph.reflectorOf pair.1 pair.2) := by
  obtain ⟨neighbor, isFirst⟩ := InternalSessions.hasSession_iff.1 opens
  obtain ⟨answer, answersFirst⟩ := InternalSessions.hasSession_iff.1 answers
  rw [Prod.fst_swap, Prod.snd_swap] at answersFirst
  have notExternal : graph.external.contains
      (InternalSessions.sessionEdge graph.devices graph.options pair).key = false :=
    parts.not_external_of_abstract rfl
  have isInternal : graph.internal.contains
      (InternalSessions.sessionEdge graph.devices graph.options pair).key = true := by
    rw [parts.sessions, EdgeMap.contains,
      InternalSessions.get?_sessions parts.resolved isFirst]
    rfl
  have isPeer : (InternalSessions.sessionEdge graph.devices graph.options pair).key.peer =
      some pair.2 := by
    simp [Edge.key, InternalSessions.sessionEdge, answersFirst]
  have isRouter : (InternalSessions.sessionEdge graph.devices graph.options pair).key.router =
      pair.1 := rfl
  rw [peerType, PeerType.across, notExternal, isInternal, isPeer, isRouter,
    PeerType.byReflectors, if_neg Bool.false_ne_true, if_pos rfl]
  simp only [parts.isClient_iff]
  split
  · rfl
  · split <;> rfl

end BuiltWith

/-- Of an abstract edge and its opposite, both lead to nonclients or none does. One of them
leads to a client exactly if the other one leads to its reflector, unless the two devices are
the reflectors of each other: then both edges lead to a reflector. -/
theorem peerTypes_complement_iff (isBuilt : build devices adjacency selection options = .ok graph)
    (isAbstract : key.abstract = true) (isOpposite : graph.reverse.get? key = some opposite) :
    ∃ there back, graph.peerType key = .ok there ∧ graph.peerType opposite.key = .ok back ∧
      (there = .toNonclient ↔ back = .toNonclient) ∧
      (there.Complements back ↔ ¬ graph.ReflectEachOther key.router opposite.router) ∧
      (graph.ReflectEachOther key.router opposite.router →
        there = .toReflector ∧ back = .toReflector) := by
  obtain ⟨internal, parts⟩ := build_eq_ok_iff.1 isBuilt
  obtain ⟨pair, opens, answers, rfl, rfl⟩ := parts.exists_pair_of_reverse isAbstract isOpposite
  refine ⟨_, _, parts.peerType_sessionEdge opens answers,
    parts.peerType_sessionEdge answers opens, ?_, ?_, ?_⟩
  · rw [PeerType.byReflectors_eq_toNonclient_iff, PeerType.byReflectors_eq_toNonclient_iff]
    exact and_comm
  · exact PeerType.byReflectors_complements_iff graph.reflectorOf pair.1 pair.2
  · rintro ⟨isClient, isReflector⟩
    exact ⟨if_pos isClient, if_pos isReflector⟩

open InternalSessions (speaker internalStatement hostNetwork)

/-- A client that two reflectors claim, which have a session with each other. -/
def contestedClient : Table String Device :=
  Table.ofList
    [("r", speaker "r" [internalStatement 65000 0x0A000001 (hostNetwork 0x0A000003) true,
      internalStatement 65000 0x0A000001 (hostNetwork 0x0A000002)]),
    ("s", speaker "s" [internalStatement 65000 0x0A000002 (hostNetwork 0x0A000003) true,
      internalStatement 65000 0x0A000002 (hostNetwork 0x0A000001)]),
    ("c", speaker "c" [internalStatement 65000 0x0A000003 (hostNetwork 0x0A000001),
      internalStatement 65000 0x0A000003 (hostNetwork 0x0A000002)])]

/-- The key of the abstract edge from a device to another one that opens a session, too. -/
def sessionKey (device peer : String) : EdgeKey :=
  ⟨device, "iBGP-" ++ peer, some peer, some ("iBGP-" ++ device), true⟩

theorem peerTypes_complement_iff_contestedClient :
    ∃ graph opposite, build contestedClient .empty .all {} = .ok graph ∧
      (sessionKey "c" "r").abstract = true ∧
      graph.reverse.get? (sessionKey "c" "r") = some opposite ∧
      ∃ there back, graph.peerType (sessionKey "c" "r") = .ok there ∧
        graph.peerType opposite.key = .ok back ∧
        (there = .toNonclient ↔ back = .toNonclient) ∧
        (there.Complements back ↔ ¬ graph.ReflectEachOther "c" opposite.router) ∧
        (graph.ReflectEachOther "c" opposite.router →
          there = .toReflector ∧ back = .toReflector) := by
  have evaluated : (build contestedClient .empty .all {}).toOption.any (fun graph =>
      (graph.reverse.get? (sessionKey "c" "r")).isSome) = true := by
    decide +kernel
  obtain ⟨graph, isBuilt, hasOpposite⟩ := (Option.any_eq_true _ _).1 evaluated
  rw [toOption_eq_some_iff] at isBuilt
  obtain ⟨opposite, isOpposite⟩ := Option.isSome_iff_exists.1 hasOpposite
  exact ⟨graph, opposite, isBuilt, rfl, isOpposite,
    peerTypes_complement_iff isBuilt rfl isOpposite⟩

def mutualClaims : Table String Device :=
  Table.ofList
    [("a", speaker "a" [internalStatement 65000 0x0A000001 (hostNetwork 0x0A000002) true]),
    ("b", speaker "b" [internalStatement 65000 0x0A000002 (hostNetwork 0x0A000001) true])]

/-- Both ends take the other one for their reflector. -/
theorem not_complements_mutualClaims :
    ∃ graph opposite there back, build mutualClaims .empty .all {} = .ok graph ∧
      (sessionKey "a" "b").abstract = true ∧
      graph.reverse.get? (sessionKey "a" "b") = some opposite ∧
      graph.peerType (sessionKey "a" "b") = .ok there ∧
      graph.peerType opposite.key = .ok back ∧ ¬ there.Complements back := by
  have evaluated : (build mutualClaims .empty .all {}).toOption.any (fun graph =>
      (graph.reverse.get? (sessionKey "a" "b")).any fun opposite =>
        decide ((graph.peerType (sessionKey "a" "b")).toOption = some .toReflector ∧
          (graph.peerType opposite.key).toOption = some .toReflector)) = true := by
    decide +kernel
  obtain ⟨graph, isBuilt, evaluated⟩ := (Option.any_eq_true _ _).1 evaluated
  obtain ⟨opposite, isOpposite, evaluated⟩ := (Option.any_eq_true _ _).1 evaluated
  obtain ⟨there, back⟩ := of_decide_eq_true evaluated
  refine ⟨graph, opposite, .toReflector, .toReflector, toOption_eq_some_iff.1 isBuilt, rfl,
    isOpposite, toOption_eq_some_iff.1 there, toOption_eq_some_iff.1 back, ?_⟩
  intro complements
  exact absurd (complements.1.1 rfl) (by decide)

end Graph

end RoutingPlane
