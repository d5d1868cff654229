import RoutingPlane.Proofs.Graph.SessionQueries
import RoutingPlane.Proofs.Snapshot.Adjacency

/-!
The edges that devices list. An edge is known by the names at its ends, so two listed edges
could be equal only if they started at one interface, and those of an interface lead to
different ones as long as no interface is adjacent to it twice. The edges of sessions are told
from those of links by their kind, and from each other by the device that they name.
-/

namespace RoutingPlane

universe u v w x

/-- Items that are told apart by what they are known by, group by group, are told apart
altogether if this tells the groups apart, too. -/
theorem nodup_map_flatMap {ι : Type u} {α : Type v} {κ : Type w} {τ : Type x} {groups : List ι}
    {itemsOf : ι → List α} {keyOf : α → κ} (label : ι → τ) (labelOf : κ → τ)
    (labelsDiffer : (groups.map label).Nodup)
    (keysDiffer : ∀ group ∈ groups, ((itemsOf group).map keyOf).Nodup)
    (labelled : ∀ group ∈ groups, ∀ item ∈ itemsOf group, labelOf (keyOf item) = label group) :
    ((groups.flatMap itemsOf).map keyOf).Nodup := by
  have labelledKey : ∀ group ∈ groups, ∀ key ∈ (itemsOf group).map keyOf,
      labelOf key = label group := by
    intro group isGroup key isKey
    obtain ⟨item, isItem, rfl⟩ := List.mem_map.1 isKey
    exact labelled group isGroup item isItem
  rw [List.map_flatMap, List.nodup_flatMap]
  refine ⟨keysDiffer, ?_⟩
  have apart : groups.Pairwise fun group later => label group ≠ label later :=
    List.pairwise_map.1 labelsDiffer
  apply apart.imp_of_mem
  intro group later isGroup isLater differ key inGroup inLater
  have labelOfGroup := labelledKey group isGroup key inGroup
  have labelOfLater := labelledKey later isLater key inLater
  exact differ (labelOfGroup.symm.trans labelOfLater)

/-! ## Links -/

namespace Topology

variable {devices : Table String Device} {adjacency : Adjacency} {router : String}
  {device : Device}

theorem nodup_ends {ref : InterfaceRef} (once : Link.ListsOnce adjacency) :
    ((ends devices adjacency ref).map Prod.fst).Nodup := by
  have asListed : (found devices adjacency ref).map Prod.fst = met devices adjacency ref := by
    rw [met, found, List.map_filterMap, ← List.filterMap_eq_filter]
    apply List.filterMap_congr
    intro other _
    cases isFound : interfaceAt? devices other <;> simp [Option.guard, isFound]
  have permuted : ((ends devices adjacency ref).map Prod.fst).Perm (met devices adjacency ref) := by
    rw [← asListed]
    exact (List.mergeSort_perm _ _).map Prod.fst
  rw [permuted.nodup_iff]
  exact (once ref).filter _

theorem near_of_mem_edgesFrom {name : String} {interface : Interface} {edge : Edge}
    (isFrom : edge ∈ edgesFrom devices adjacency router name interface) :
    edge.near = interface ∧ interface.address.isSome = true := by
  have hasAddress := (mem_edgesFrom_iff.1 isFrom).1
  rcases of_mem_edgesFrom isFrom with dangles | ⟨other, far, _, _, links⟩
  · exact ⟨congrArg Edge.near dangles, hasAddress⟩
  · exact ⟨congrArg Edge.near links, hasAddress⟩

/-- The edges from an interface lead to different interfaces. -/
theorem nodup_edgesFrom (named : WellNamed devices) (once : Link.ListsOnce adjacency)
    (name : String) (interface : Interface) :
    ((edgesFrom devices adjacency router name interface).map Edge.key).Nodup := by
  have endsDiffer : ((ends devices adjacency ⟨router, name⟩).map Prod.fst).Nodup :=
    nodup_ends once
  have areNamed : ∀ other ∈ ends devices adjacency ⟨router, name⟩,
      other.2.name = other.1.interface := by
    intro other isEnd
    exact name_of_interfaceAt? named (mem_ends_iff.1 isEnd).2
  simp only [edgesFrom]
  generalize ends devices adjacency ⟨router, name⟩ = found at endsDiffer areNamed
  split
  · exact List.nodup_nil
  · split
    · exact List.nodup_singleton _
    · have asReferences : ((found.filter fun other => other.1.device ≠ router).map fun other =>
          linkEdge router interface other.1.device other.2).map Edge.key =
            ((found.filter fun other => other.1.device ≠ router).map Prod.fst).map fun other =>
              ⟨router, interface.name, some other.device, some other.interface, false⟩ := by
        rw [List.map_map, List.map_map]
        apply List.map_congr_left
        intro other isKept
        have isNamed := areNamed other (List.mem_filter.1 isKept).1
        simp [Edge.key, linkEdge, isNamed]
      rw [asReferences]
      apply List.Nodup.map
      · intro left right same
        simp only [EdgeKey.mk.injEq, Option.some.injEq, true_and, and_true] at same
        obtain ⟨leftDevice, leftInterface⟩ := left
        obtain ⟨rightDevice, rightInterface⟩ := right
        rw [InterfaceRef.mk.injEq]
        exact same
      · exact endsDiffer.sublist (List.filter_sublist.map Prod.fst)

theorem nodup_edgesOf (named : WellNamed devices) (once : Link.ListsOnce adjacency)
    (isDevice : devices.get? router = some device) :
    ((edgesOf devices adjacency router device).map Edge.key).Nodup := by
  apply nodup_map_flatMap Prod.fst EdgeKey.near device.interfaces.keysNodup
  · intro entry _
    exact nodup_edgesFrom named once entry.1 entry.2
  · intro entry isEntry edge isFrom
    have isInterface := Table.get?_eq_some_iff.2 isEntry
    have isNamed := named router device isDevice entry.1 entry.2 isInterface
    have isNear := (near_of_mem_edgesFrom isFrom).1
    exact (congrArg Interface.name isNear).trans isNamed

end Topology

/-! ## Graphs -/

namespace Graph

variable {devices : Table String Device} {adjacency : Adjacency} {selection : Selection}
  {options : Options} {graph : Graph} {internal : InternalSessions} {router : String}
  {device : Device} {edge : Edge}

/-- An edge of a device dangles or leads to another device of the graph, and unless it is
abstract, it starts at an interface of the device that has an address. -/
structure IsEdgeOf (graph : Graph) (router : String) (edge : Edge) : Prop where
  start : edge.router = router
  peer : ∀ peer, edge.peer = some peer → peer ≠ router ∧ peer ∈ graph.devices.keys
  near : edge.abstract = false → ∃ device, graph.devices.get? router = some device ∧
    device.interfaces.get? edge.near.name = some edge.near ∧ edge.near.address.isSome = true

/-- What a device of a graph lists: its edges of the topology and those of its sessions. -/
theorem BuiltWith.edgesOf_eq
    (parts : BuiltWith devices adjacency selection options graph internal)
    (isDevice : graph.devices.get? router = some device) :
    graph.edgesOf router = Topology.edgesOf graph.devices adjacency router device ++
      ((InternalSessions.discover graph.devices).keys.filter fun pair =>
        decide (pair.1 = router)).map
          (InternalSessions.sessionEdge graph.devices graph.options) := by
  rw [edgesOf, parts.edges, getD_allEdges, isDevice, Option.isSome_some, if_pos rfl,
    Topology.getD_edges, isDevice, InternalSessions.getD_edges parts.resolved]
  rfl

/-- No key is listed twice for a device. A key tells whether its edge is that of a link or of a
session. -/
theorem BuiltWith.nodup_edgesOf
    (parts : BuiltWith devices adjacency selection options graph internal)
    (named : WellNamed devices) (once : Link.ListsOnce adjacency)
    (isDevice : graph.devices.get? router = some device) :
    ((graph.edgesOf router).map Edge.key).Nodup := by
  have modelledNamed := wellNamed_selected named parts.isSelected
  have linksDiffer := Topology.nodup_edgesOf modelledNamed once isDevice
  have sessionsDiffer : ((((InternalSessions.discover graph.devices).keys.filter fun pair =>
      decide (pair.1 = router)).map
        (InternalSessions.sessionEdge graph.devices graph.options)).map Edge.key).Nodup := by
    rw [List.map_map]
    have pairsDiffer := (InternalSessions.discover graph.devices).keysNodup.filter
      fun pair => decide (pair.1 = router)
    exact pairsDiffer.map
      (InternalSessions.key_sessionEdge_injective graph.devices graph.options)
  rw [parts.edgesOf_eq isDevice, List.map_append]
  refine linksDiffer.append sessionsDiffer ?_
  intro key isLink isSession
  obtain ⟨link, isLink, linkKey⟩ := List.mem_map.1 isLink
  obtain ⟨session, isSession, sessionKey⟩ := List.mem_map.1 isSession
  obtain ⟨pair, _, rfl⟩ := List.mem_map.1 isSession
  have isConcrete : link.key.abstract = false := Topology.concrete_of_mem_edgesOf isLink
  rw [linkKey, ← sessionKey] at isConcrete
  cases isConcrete

/-- Every edge that a graph lists for a device is one of the device, whether it comes from the
topology or from a session. -/
theorem BuiltWith.isEdgeOf
    (parts : BuiltWith devices adjacency selection options graph internal)
    (named : WellNamed devices) (isDevice : graph.devices.get? router = some device)
    (isListed : edge ∈ graph.edgesOf router) : graph.IsEdgeOf router edge := by
  have modelledNamed := wellNamed_selected named parts.isSelected
  rw [parts.edgesOf_eq isDevice, List.mem_append] at isListed
  rcases isListed with isLink | isSession
  · obtain ⟨name, interface, isInterface, isFrom⟩ := Topology.mem_edgesOf_iff.1 isLink
    obtain ⟨isNear, hasAddress⟩ := Topology.near_of_mem_edgesFrom isFrom
    constructor
    case start => exact Topology.router_of_mem_edgesOf isLink
    case peer =>
      intro peer isPeer
      rcases Topology.of_mem_edgesFrom isFrom with dangles | ⟨other, far, isEnd, apart, links⟩
      · rw [dangles] at isPeer
        cases isPeer
      · rw [links] at isPeer
        obtain rfl := Option.some.inj isPeer
        have isFound := (Topology.mem_ends_iff.1 isEnd).2
        obtain ⟨remote, isRemote, _⟩ := Topology.interfaceAt?_eq_some_iff.1 isFound
        exact ⟨apart, Table.mem_keys_iff_exists.2 ⟨remote, isRemote⟩⟩
    case near =>
      intro _
      have isNamed := modelledNamed router device isDevice name interface isInterface
      rw [isNear, isNamed]
      exact ⟨device, isDevice, isInterface, hasAddress⟩
  · obtain ⟨pair, isKept, rfl⟩ := List.mem_map.1 isSession
    obtain ⟨isPair, isOpener⟩ := List.mem_filter.1 isKept
    have isOpener : pair.1 = router := of_decide_eq_true isOpener
    constructor
    case start => exact isOpener
    case peer =>
      intro peer isPeer
      obtain ⟨answer, _, rfl⟩ := Option.map_eq_some_iff.1 isPeer
      have opens := InternalSessions.mem_keys_discover_iff.1 isPair
      obtain ⟨apart, _, remote, _, _, isRemote, _⟩ := opens
      rw [← isOpener]
      exact ⟨Ne.symm apart, Table.mem_keys_iff_exists.2 ⟨remote, isRemote⟩⟩
    case near =>
      intro isConcrete
      cases isConcrete

theorem BuiltWith.exists_device_of_mem_edgesOf
    (parts : BuiltWith devices adjacency selection options graph internal)
    (isListed : edge ∈ graph.edgesOf router) : ∃ device, graph.devices.get? router = some device := by
  rw [edgesOf, parts.edges, getD_allEdges] at isListed
  split at isListed
  next isModelled => exact Option.isSome_iff_exists.1 isModelled
  · cases isListed

/-- The edges of all devices together are those that each device lists. -/
theorem BuiltWith.allListed_eq
    (parts : BuiltWith devices adjacency selection options graph internal) :
    graph.edges.values.flatten =
      graph.devices.entries.flatMap fun entry => graph.edgesOf entry.1 := by
  rw [parts.edges, Table.values, allEdges, Table.mapValues, List.map_map, ← List.flatMap_def]
  apply List.flatMap_congr
  intro entry isEntry
  rw [edgesOf, parts.edges, getD_allEdges, Table.get?_eq_some_iff.2 isEntry]
  rfl

/-- No two edges of all devices together are equal. -/
theorem BuiltWith.nodup_edges
    (parts : BuiltWith devices adjacency selection options graph internal)
    (named : WellNamed devices) (once : Link.ListsOnce adjacency) :
    (graph.edges.values.flatten.map Edge.key).Nodup := by
  rw [parts.allListed_eq]
  apply nodup_map_flatMap Prod.fst EdgeKey.router graph.devices.keysNodup
  · intro entry isEntry
    exact parts.nodup_edgesOf named once (Table.get?_eq_some_iff.2 isEntry)
  · intro entry isEntry edge isListed
    exact (parts.isEdgeOf named (Table.get?_eq_some_iff.2 isEntry) isListed).start

/-! ## Sessions -/

/-- The edges of sessions between systems are listed under their own devices. -/
theorem BuiltWith.mem_edgesOf_of_external
    (parts : BuiltWith devices adjacency selection options graph internal)
    (named : WellNamed devices) {session : Edge × BgpNeighbor}
    (isSession : session ∈ graph.external.entries) :
    session.1 ∈ graph.edgesOf session.1.router := by
  have modelledNamed := wellNamed_selected named parts.isSelected
  rw [parts.external, ExternalSessions.resolve,
    EdgeMap.mem_entries_ofList (ExternalSessions.consistent_found modelledNamed)] at isSession
  obtain ⟨router, device, isDevice, isLink, _⟩ := ExternalSessions.mem_found_iff.1 isSession
  rw [Topology.getD_edges, isDevice] at isLink
  have isRouter : session.1.router = router := Topology.router_of_mem_edgesOf isLink
  rw [isRouter, parts.edgesOf_eq isDevice]
  exact List.mem_append_left _ isLink

/-- The edges of sessions inside systems are listed under their own devices. -/
theorem BuiltWith.mem_edgesOf_of_internal
    (parts : BuiltWith devices adjacency selection options graph internal)
    {session : Edge × BgpNeighbor} (isSession : session ∈ graph.internal.entries) :
    session.1 ∈ graph.edgesOf session.1.router := by
  rw [parts.sessions, InternalSessions.entries_sessions parts.resolved] at isSession
  obtain ⟨entry, isEntry, rfl⟩ := List.mem_map.1 isSession
  have isPair : entry.1 ∈ (InternalSessions.discover graph.devices).keys :=
    List.mem_map.2 ⟨entry, isEntry, rfl⟩
  have opens := InternalSessions.mem_keys_discover_iff.1 isPair
  obtain ⟨_, opener, _, _, isOpener, _⟩ := opens
  have isRouter :
      (InternalSessions.sessionEdge graph.devices graph.options entry.1).router = entry.1.1 := rfl
  rw [isRouter, parts.edgesOf_eq isOpener]
  apply List.mem_append_right
  exact List.mem_map.2 ⟨entry.1, List.mem_filter.2 ⟨isPair, decide_eq_true rfl⟩, rfl⟩

end Graph

/-- In the graph of a snapshot no two edges are equal, each device lists edges of its own that
lead to other devices of the graph, and every session runs over an edge that is listed. -/
theorem Snapshot.edges_listed_once {path : String} {value : Value} {snapshot : Snapshot}
    {selection : Selection} {graph : Graph} (isRead : Snapshot.read path value = .ok snapshot)
    (isBuilt : snapshot.build selection = .ok graph) :
    (graph.edges.values.flatten.map Edge.key).Nodup ∧
      (∀ router, ∀ edge ∈ graph.edgesOf router, graph.IsEdgeOf router edge) ∧
      (∀ session ∈ graph.external.entries, session.1 ∈ graph.edgesOf session.1.router) ∧
      ∀ session ∈ graph.internal.entries, session.1 ∈ graph.edgesOf session.1.router := by
  obtain ⟨internal, parts⟩ := Graph.build_eq_ok_iff.1 isBuilt
  have named := Snapshot.wellNamed_of_read isRead
  have once : Link.ListsOnce snapshot.adjacency := by
    obtain ⟨_, _, sections⟩ := read_eq_ok_iff.1 isRead
    obtain ⟨_, links, _, _, isAdjacency⟩ := sections.adjacency
    rw [isAdjacency]
    exact Link.listsOnce_adjacency links
  refine ⟨parts.nodup_edges named once, ?_, ?_, ?_⟩
  · intro router edge isListed
    obtain ⟨device, isDevice⟩ := parts.exists_device_of_mem_edgesOf isListed
    exact parts.isEdgeOf named isDevice isListed
  · intro session isSession
    exact parts.mem_edgesOf_of_external named isSession
  · intro session isSession
    exact parts.mem_edgesOf_of_internal isSession

/-- A border device, its neighbor in another system on a link that is declared from both ends,
and its neighbor inside. -/
def borderLink : Value :=
  .map [
    (.text "devices", .map [
      (.text "a", borderDevice), (.text "b", innerDevice),
      (.text "c", .map [(.text "interfaces", .map [
        (.text "eth0", .map [(.text "prefix", .text "10.0.0.2/30")])])])]),
    (.text "links", .list [
      .list [.text "a:eth0", .text "c:eth0"], .list [.text "c:eth0", .text "a:eth0"]])]

theorem Snapshot.edges_listed_once_borderLink :
    ∃ snapshot graph, Snapshot.read Snapshot.standardPath borderLink = .ok snapshot ∧
      snapshot.build .all = .ok graph ∧
      graph.external.entries.length = 2 ∧ graph.internal.entries.length = 2 ∧
      (graph.edges.values.flatten.map Edge.key).Nodup ∧
      (∀ router, ∀ edge ∈ graph.edgesOf router, graph.IsEdgeOf router edge) ∧
      (∀ session ∈ graph.external.entries, session.1 ∈ graph.edgesOf session.1.router) ∧
      ∀ session ∈ graph.internal.entries, session.1 ∈ graph.edgesOf session.1.router := by
  have evaluated : ((Snapshot.read Snapshot.standardPath borderLink).toOption.any fun snapshot =>
      (snapshot.build .all).toOption.any fun graph =>
        decide (graph.external.entries.length = 2 ∧ graph.internal.entries.length = 2)) = true := by
    decide +kernel
  obtain ⟨snapshot, isRead, evaluated⟩ := (Option.any_eq_true _ _).1 evaluated
  obtain ⟨graph, isBuilt, evaluated⟩ := (Option.any_eq_true _ _).1 evaluated
  rw [toOption_eq_some_iff] at isRead isBuilt
  obtain ⟨twoExternal, twoInternal⟩ := of_decide_eq_true evaluated
  exact ⟨snapshot, graph, isRead, isBuilt, twoExternal, twoInternal,
    Snapshot.edges_listed_once isRead isBuilt⟩

end RoutingPlane
