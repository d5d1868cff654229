import RoutingPlane.Policy.EdgeUse
import RoutingPlane.Proofs.Graph.PeerTypes

/-!
What is asked about the session across an edge. The relation to the peer is looked up in
both mappings of sessions, the neighbor statement in the one for the kind of the edge, and
the use of an edge is decided by its interface first. The answers agree, because sessions
between autonomous systems run over concrete edges only and those inside over abstract ones.
-/

namespace RoutingPlane

/-- Across a session inside an autonomous system, the peer is a reflector, a client or
neither of them. -/
theorem PeerType.exists_across_of_internal {α β : Type} {key : EdgeKey} {external : EdgeMap α}
    {internal : EdgeMap β} (notExternal : external.contains key = false)
    (isInternal : internal.contains key = true) (clients : Table String (List String)) :
    ∃ relation, across key external internal clients = .ok relation ∧ relation ≠ .external := by
  rw [across, notExternal, isInternal, if_neg Bool.false_ne_true, if_pos rfl]
  cases key.peer with
  | none => exact ⟨.toNonclient, rfl, by decide⟩
  | some peer =>
      by_cases leadsUp : isClient clients peer key.router = true
      · exact ⟨.toReflector, if_pos leadsUp, by decide⟩
      · by_cases leadsDown : isClient clients key.router peer = true
        · exact ⟨.toClient, (if_neg leadsUp).trans (if_pos leadsDown), by decide⟩
        · exact ⟨.toNonclient, (if_neg leadsUp).trans (if_neg leadsDown), by decide⟩

namespace Graph

variable {devices : Table String Device} {adjacency : Adjacency} {selection : Selection}
  {options : Options} {graph : Graph} {internal : InternalSessions} {key : EdgeKey}
  {router : String} {edge : Edge}

/-! ## Sessions and the kinds of edges -/

/-- Sessions between autonomous systems run over concrete edges, those inside over abstract
ones. -/
structure SessionsFitEdges (graph : Graph) : Prop where
  external : ∀ key, graph.external.contains key = true → key.abstract = false
  internal : ∀ key, graph.internal.contains key = true → key.abstract = true

/-- In a built graph the key of an edge tells which sessions can run over it. -/
theorem BuiltWith.sessionsFitEdges
    (parts : BuiltWith devices adjacency selection options graph internal) :
    SessionsFitEdges graph where
  external key isExternal := by
    rw [← Bool.not_eq_true]
    intro isAbstract
    rw [parts.not_external_of_abstract isAbstract] at isExternal
    cases isExternal
  internal key isInternal := by
    rw [parts.sessions, InternalSessions.sessions_eq parts.resolved,
      EdgeMap.contains_ofList_iff] at isInternal
    obtain ⟨entry, isEntry, rfl⟩ := isInternal
    obtain ⟨session, _, rfl⟩ := List.mem_map.1 isEntry
    rfl

theorem BuiltWith.keyed_external
    (parts : BuiltWith devices adjacency selection options graph internal) :
    graph.external.Keyed := by
  rw [parts.external]
  exact EdgeMap.keyed_ofList _

theorem BuiltWith.keyed_internal
    (parts : BuiltWith devices adjacency selection options graph internal) :
    graph.internal.Keyed := by
  rw [parts.sessions, InternalSessions.sessions_eq parts.resolved]
  exact EdgeMap.keyed_ofList _

namespace SessionsFitEdges

variable (fits : SessionsFitEdges graph)

include fits

theorem exclusive (key : EdgeKey) :
    ¬(graph.external.contains key = true ∧ graph.internal.contains key = true) := by
  rintro ⟨isExternal, isInternal⟩
  have isConcrete := fits.external key isExternal
  rw [fits.internal key isInternal] at isConcrete
  cases isConcrete

/-- It does not matter that the neighbor statement is looked up in one mapping only. -/
theorem hasSession_iff :
    graph.hasSession key = true ↔ ∃ neighbor, graph.neighborOver? key = some neighbor := by
  rw [hasSession, neighborOver?, Bool.or_eq_true, ← Option.isSome_iff_exists]
  cases kind : key.abstract with
  | false =>
      have notInternal : graph.internal.contains key ≠ true := by
        intro isInternal
        rw [fits.internal key isInternal] at kind
        cases kind
      rw [or_iff_left notInternal, if_neg Bool.false_ne_true]
      rfl
  | true =>
      have notExternal : graph.external.contains key ≠ true := by
        intro isExternal
        rw [fits.external key isExternal] at kind
        cases kind
      rw [or_iff_right notExternal, if_pos rfl]
      rfl

end SessionsFitEdges

/-- What is told of the session across an edge fits together. -/
structure TellsSession (graph : Graph) (key : EdgeKey) : Prop where
  /-- The relation to the peer is unknown exactly if there is no neighbor statement. -/
  refused : ∀ fault, graph.peerType key = .error fault ↔
    graph.neighborOver? key = none ∧ fault = .noSession key
  exclusive : ¬(graph.external.contains key = true ∧ graph.internal.contains key = true)
  /-- The relation to the peer tells whether the edge is abstract. -/
  kind : ∀ relation, graph.peerType key = .ok relation →
    (relation = .external ↔ key.abstract = false)

/-- All queries on the session across an edge tell the same, whether the sessions between systems,
which are asked first, have it or those inside one. -/
theorem SessionsFitEdges.tellsSession (fits : SessionsFitEdges graph) (key : EdgeKey) :
    TellsSession graph key := by
  have unknown : graph.neighborOver? key = none ↔
      graph.external.contains key = false ∧ graph.internal.contains key = false := by
    rw [← Bool.or_eq_false_iff, ← Bool.not_eq_true, Option.eq_none_iff_forall_ne_some,
      ← not_exists, not_iff_not]
    exact fits.hasSession_iff.symm
  cases isExternal : graph.external.contains key with
  | true =>
      have told : graph.peerType key = .ok .external := if_pos isExternal
      exact ⟨by simp [told, unknown, isExternal], fits.exclusive key,
        by simp [told, fits.external key isExternal]⟩
  | false =>
      cases isInternal : graph.internal.contains key with
      | true =>
          obtain ⟨relation, told, notExternal⟩ :=
            PeerType.exists_across_of_internal isExternal isInternal graph.clients
          have told : graph.peerType key = .ok relation := told
          exact ⟨by simp [told, unknown, isInternal], fits.exclusive key,
            by simp [told, notExternal, fits.internal key isInternal]⟩
      | false =>
          have told : graph.peerType key = .error (.noSession key) := by
            simp [peerType, PeerType.across, isExternal, isInternal]
          exact ⟨by simp [told, unknown, isExternal, isInternal, eq_comm], fits.exclusive key,
            by simp [told]⟩

/-! ## The use of listed edges -/

/-- A listed edge is an edge of the topology or that of a session. -/
theorem BuiltWith.of_mem_edgesOf
    (parts : BuiltWith devices adjacency selection options graph internal)
    (isListed : edge ∈ graph.edgesOf router) :
    (∃ device, graph.devices.get? router = some device ∧
      edge ∈ Topology.edgesOf graph.devices adjacency router device) ∨
      ∃ pair, InternalSessions.HasSession graph.devices pair ∧
        edge = InternalSessions.sessionEdge graph.devices graph.options pair := by
  rw [edgesOf, parts.edges, getD_allEdges] at isListed
  split at isListed
  · rcases List.mem_append.1 isListed with isLink | isSession
    · exact .inl (Topology.mem_getD_edges_iff.1 isLink)
    · rw [InternalSessions.getD_edges parts.resolved] at isSession
      obtain ⟨pair, isKept, rfl⟩ := List.mem_map.1 isSession
      have opens := InternalSessions.mem_keys_discover_iff.1 (List.mem_filter.1 isKept).1
      exact .inr ⟨pair, opens, rfl⟩
  · cases isListed

/-- The local interface of a concrete edge is not made up, and an abstract edge carries a
session. -/
structure UsableForSessions (graph : Graph) (edge : Edge) : Prop where
  concrete : edge.abstract = false → edge.near.isAbstract = false
  abstract : edge.abstract = true → graph.hasSession edge.key = true

/-- A listed edge starts at an interface of its device, or it is that of a session. -/
theorem BuiltWith.usableForSessions
    (parts : BuiltWith devices adjacency selection options graph internal)
    (noneMadeUp : ∀ router device name interface, devices.get? router = some device →
      device.interfaces.get? name = some interface → interface.isAbstract = false)
    (isListed : edge ∈ graph.edgesOf router) : UsableForSessions graph edge := by
  rcases parts.of_mem_edgesOf isListed with ⟨device, isDevice, isLink⟩ | ⟨pair, opens, rfl⟩
  · obtain ⟨name, interface, isInterface, isFrom⟩ := Topology.mem_edgesOf_iff.1 isLink
    have isConfigured := get?_of_selected parts.isSelected isDevice
    have notMadeUp := noneMadeUp router device name interface isConfigured isInterface
    have isConcrete := Topology.concrete_of_mem_edgesOf isLink
    constructor
    · intro _
      rcases Topology.of_mem_edgesFrom isFrom with rfl | ⟨other, far, _, _, rfl⟩ <;>
        exact notMadeUp
    · intro isAbstract
      rw [isConcrete] at isAbstract
      cases isAbstract
  · constructor
    · intro isConcrete
      cases isConcrete
    · intro _
      obtain ⟨neighbor, isFirst⟩ := InternalSessions.hasSession_iff.1 opens
      have isInternal : graph.internal.contains
          (InternalSessions.sessionEdge graph.devices graph.options pair).key = true := by
        rw [parts.sessions, EdgeMap.contains, InternalSessions.get?_sessions parts.resolved isFirst]
        rfl
      rw [hasSession, isInternal, Bool.or_true]

/-- Sessions run over the edges that carry one, unless the local interface is inactive or,
of a concrete edge, a loopback. -/
theorem UsableForSessions.isUsed_iff (usable : UsableForSessions graph edge) (device : String) :
    graph.isUsed device .bgp edge = true ↔
      graph.hasSession edge.key = true ∧ edge.near.isActive = true ∧
        (edge.abstract = true ∨ edge.near.isLoopback = false) := by
  have carries : edge.near.carries .bgp = edge.near.isActive := rfl
  rw [isUsed, Edge.use, carries]
  cases edge.near.isActive with
  | false => simp
  | true =>
      cases kind : edge.abstract with
      | true => simp [usable.abstract kind]
      | false => cases loopback : edge.near.isLoopback <;> simp [usable.concrete kind]

end Graph

/-- In the graph of a snapshot, what is told of the session across any edge fits together,
and sessions run over a listed edge exactly if it carries one, its local interface is active
and, unless the edge is abstract, no loopback. -/
theorem Snapshot.sessionQueries_agree {path : String} {value : Value} {snapshot : Snapshot}
    {selection : Selection} {graph : Graph} (isRead : Snapshot.read path value = .ok snapshot)
    (isBuilt : snapshot.build selection = .ok graph) :
    (∀ key, graph.TellsSession key) ∧
      ∀ router, ∀ edge ∈ graph.edgesOf router,
        (graph.isUsed router .bgp edge = true ↔
          (∃ neighbor, graph.neighborOver? edge.key = some neighbor) ∧
            edge.near.isActive = true ∧
              (edge.abstract = true ∨ edge.near.isLoopback = false)) := by
  obtain ⟨internal, parts⟩ := Graph.build_eq_ok_iff.1 isBuilt
  have fits := parts.sessionsFitEdges
  refine ⟨fits.tellsSession, ?_⟩
  intro router edge isListed
  have usable : graph.UsableForSessions edge := by
    apply parts.usableForSessions _ isListed
    intro router device name interface isDevice isInterface
    exact (Snapshot.of_interface isRead isDevice isInterface).2
  rw [usable.isUsed_iff, fits.hasSession_iff]

/-- A device with a neighbor in another system on its link, one of its own system behind it
and a neighbor whose address is that of its loopback. -/
def borderDevice : Value :=
  .map [
    (.text "interfaces", .map [
      (.text "eth0", .map [(.text "prefix", .text "10.0.0.1/30")]),
      (.text "lo0", .map [(.text "prefix", .text "10.1.1.1/32"), (.text "loopback", .bool true)])]),
    (.text "bgp", .map [(.text "neighbors", .list [
      .map [(.text "prefix", .text "10.0.0.2/32"), (.text "local_as", .int 65001),
        (.text "remote_as", .int 65002)],
      .map [(.text "prefix", .text "10.1.1.1/32"), (.text "local_as", .int 65001),
        (.text "remote_as", .int 65003)],
      .map [(.text "prefix", .text "10.1.1.2/32"), (.text "local_as", .int 65001),
        (.text "remote_as", .int 65001), (.text "local_ip", .text "10.1.1.1")]])])]

/-- The neighbor of a border device inside its autonomous system. -/
def innerDevice : Value :=
  .map [(.text "bgp", .map [(.text "neighbors", .list [
    .map [(.text "prefix", .text "10.1.1.1/32"), (.text "local_as", .int 65001),
      (.text "remote_as", .int 65001), (.text "local_ip", .text "10.1.1.2")]])])]

theorem Snapshot.sessionQueries_agree_borderDevice :
    ∃ snapshot graph, Snapshot.read Snapshot.standardPath
        (.map [(.text "devices", .map [(.text "a", borderDevice), (.text "b", innerDevice)])]) =
          .ok snapshot ∧
      snapshot.build .all = .ok graph ∧ (graph.edgesOf "a").length = 3 ∧
      (∀ key, graph.TellsSession key) ∧
      ∀ router, ∀ edge ∈ graph.edgesOf router,
        (graph.isUsed router .bgp edge = true ↔
          (∃ neighbor, graph.neighborOver? edge.key = some neighbor) ∧
            edge.near.isActive = true ∧
              (edge.abstract = true ∨ edge.near.isLoopback = false)) := by
  have evaluated : ((Snapshot.read Snapshot.standardPath (.map [(.text "devices",
      .map [(.text "a", borderDevice), (.text "b", innerDevice)])])).toOption.any fun snapshot =>
        (snapshot.build .all).toOption.any fun graph =>
          decide ((graph.edgesOf "a").length = 3)) = true := by
    decide +kernel
  obtain ⟨snapshot, isRead, evaluated⟩ := (Option.any_eq_true _ _).1 evaluated
  obtain ⟨graph, isBuilt, edgeCount⟩ := (Option.any_eq_true _ _).1 evaluated
  rw [toOption_eq_some_iff] at isRead isBuilt
  exact ⟨snapshot, graph, isRead, isBuilt, of_decide_eq_true edgeCount,
    Snapshot.sessionQueries_agree isRead isBuilt⟩

end RoutingPlane
