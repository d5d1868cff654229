import RoutingPlane.Proofs.Graph.EdgeLists
import RoutingPlane.Proofs.Report.Layout
import RoutingPlane.Proofs.Snapshot.Endpoints

/-!
What a report tells of its graph. It has one row for each listed edge, one for each session with
the relation to the peer, and for each device the number of the domain that holds it. An unknown
peer is left empty in the row of an edge, so edges to a device whose name is the empty text are
counted among those without a peer. Only sessions inside autonomous systems lead to such a device,
since no link can name it.
-/

namespace RoutingPlane

/-! ## Devices without a name -/

theorem Snapshot.device_ne_empty_of_listed {path : String} {value : Value} {snapshot : Snapshot}
    (isRead : Snapshot.read path value = .ok snapshot) {ref other : InterfaceRef}
    (isListed : other ∈ Link.listed snapshot.adjacency ref) : other.device ≠ "" :=
  (isLinkable_of_mem_listed isRead isListed).2.device

namespace Graph

variable {devices : Table String Device} {adjacency : Adjacency} {selection : Selection}
  {options : Options} {graph : Graph} {internal : InternalSessions}

def danglingEdges (graph : Graph) : List Edge :=
  graph.edges.values.flatten.filter fun edge => edge.key.isDangling

/-- The listed edges to the device whose name is the empty text. -/
def namelessEdges (graph : Graph) : List Edge :=
  graph.edges.values.flatten.filter fun edge => edge.peer == some ""

/-- Links name their devices, so only sessions can lead to the device without a name. -/
theorem BuiltWith.abstract_of_mem_namelessEdges
    (parts : BuiltWith devices adjacency selection options graph internal)
    (areNamed : ∀ ref, ∀ other ∈ Link.listed adjacency ref, other.device ≠ "") {edge : Edge}
    (isNameless : edge ∈ graph.namelessEdges) : edge.abstract = true := by
  obtain ⟨isEdge, isPeer⟩ := List.mem_filter.1 isNameless
  rw [beq_iff_eq] at isPeer
  rw [parts.allListed_eq] at isEdge
  obtain ⟨entry, _, isListed⟩ := List.mem_flatMap.1 isEdge
  rcases parts.of_mem_edgesOf isListed with ⟨device, _, isLink⟩ | ⟨pair, _, rfl⟩
  · obtain ⟨name, interface, _, isFrom⟩ := Topology.mem_edgesOf_iff.1 isLink
    rcases Topology.of_mem_edgesFrom isFrom with rfl | ⟨other, far, isEnd, _, rfl⟩
    · cases isPeer
    · exact absurd (Option.some.inj isPeer) (areNamed _ other (Topology.mem_ends_iff.1 isEnd).1)
  · rfl

/-! ## Sessions and domains -/

def kindedSessions (graph : Graph) : List (String × Edge × BgpNeighbor) :=
  graph.external.entries.map (fun session => ("eBGP", session)) ++
    graph.internal.entries.map fun session => ("iBGP", session)

/-- No edge carries two sessions. -/
theorem BuiltWith.nodup_kindedSessions
    (parts : BuiltWith devices adjacency selection options graph internal) :
    (graph.kindedSessions.map fun session => session.2.1.key).Nodup := by
  have externalKeys : (graph.external.entries.map fun entry => entry.1.key).Nodup := by
    rw [parts.keyed_external.keys_entries]
    exact graph.external.table.keysNodup
  have internalKeys : (graph.internal.entries.map fun entry => entry.1.key).Nodup := by
    rw [parts.keyed_internal.keys_entries]
    exact graph.internal.table.keysNodup
  simp only [kindedSessions, List.map_append, List.map_map, Function.comp_def]
  refine externalKeys.append internalKeys ?_
  intro key isExternalKey isInternalKey
  obtain ⟨session, isExternal, rfl⟩ := List.mem_map.1 isExternalKey
  obtain ⟨other, isInternal, sameKey⟩ := List.mem_map.1 isInternalKey
  have inInternal := parts.keyed_internal.contains_of_mem isInternal
  rw [sameKey] at inInternal
  exact parts.sessionsFitEdges.exclusive session.1.key
    ⟨parts.keyed_external.contains_of_mem isExternal, inInternal⟩

/-- The number of a device is that of the only domain that holds it. -/
theorem BuiltWith.domainOf_eq_ok_iff
    (parts : BuiltWith devices adjacency selection options graph internal) {router : String}
    {number : Nat} : graph.domainOf router = .ok number ↔
      ∃ members, graph.domains[number]? = some members ∧ router ∈ members := by
  have once : graph.domains.flatten.Nodup := by
    rw [parts.domains]
    exact nodup_flatten_partitionDomains _ _ _ _
  rw [← get?_domainNumbers once, ← findIdx?_contains_eq_some_iff once, domainOf]
  cases graph.domains.findIdx? fun domain => domain.contains router <;> simp

end Graph

/-! ## The rows of a report -/

/-- The row of a session tells its kind, its edge and the relation to the peer. -/
structure SessionRow.Tells (graph : Graph) (session : String × Edge × BgpNeighbor)
    (row : SessionRow) : Prop where
  kind : row.kind = session.1
  edge : row.edge = session.2.1.key.text
  peerType : graph.peerType session.2.1.key = .ok row.peerType

namespace Report

variable {devices : Table String Device} {adjacency : Adjacency} {selection : Selection}
  {options : Options} {graph : Graph} {internal : InternalSessions} {report : Report}
  {externalRows internalRows : List SessionRow}

theorem tells_of_sessionRows {kind : String} {sessions : EdgeMap BgpNeighbor}
    {rows : List SessionRow} (told : sessionRows graph kind sessions = .ok rows) :
    List.Forall₂ (SessionRow.Tells graph) (sessions.entries.map fun session => (kind, session))
      rows := by
  rw [List.forall₂_map_left_iff]
  refine (mapM_eq_ok_iff.1 told).imp fun session row isRow => ?_
  obtain ⟨relation, isRelation, isRow⟩ := bind_eq_ok_iff.1 isRow
  rw [← pure_eq_ok_iff.1 isRow]
  exact ⟨rfl, rfl, isRelation⟩

/-- A report has a row for each listed edge, in order. -/
theorem CollectedFrom.edges_eq (collected : CollectedFrom graph externalRows internalRows report)
    (parts : graph.BuiltWith devices adjacency selection options internal)
    (named : WellNamed devices) :
    report.edges =
      graph.edges.values.flatten.map fun edge => edgeRow graph edge.router edge.key := by
  rw [collected.edges, parts.allListed_eq, Table.keys, List.flatMap_map, List.map_flatMap]
  apply List.flatMap_congr
  intro entry isEntry
  apply List.map_congr_left
  intro edge isListed
  rw [(parts.isEdgeOf named (Table.get?_eq_some_iff.2 isEntry) isListed).start]

/-- Among the rows of edges, those without a peer are those of edges that dangle and of edges to the
device without a name: both are shown as the empty text. -/
theorem length_filter_peer_eq_empty (graph : Graph) (edges : List Edge) :
    ((edges.map fun edge => edgeRow graph edge.router edge.key).filter fun row =>
        row.peer == "").length =
      (edges.filter fun edge => edge.key.isDangling).length +
        (edges.filter fun edge => edge.peer == some "").length := by
  induction edges with
  | nil => rfl
  | cons edge rest inductionHypothesis =>
      simp only [List.map_cons, List.filter_cons, edgeRow, Edge.key, EdgeKey.isDangling]
        at inductionHypothesis ⊢
      cases edge.peer with
      | none =>
          simp [inductionHypothesis]
          omega
      | some peer =>
          by_cases isNameless : peer = ""
          · simp [isNameless, inductionHypothesis]
            omega
          · simp [isNameless, inductionHypothesis]

/-- What a report tells of its graph is what the graph tells. -/
structure AgreesWith (graph : Graph) (report : Report) : Prop where
  edgeCount : report.edgeCount = graph.edges.values.flatten.length
  danglingCount : report.danglingCount = graph.danglingEdges.length + graph.namelessEdges.length
  sessions : List.Forall₂ (SessionRow.Tells graph) graph.kindedSessions report.sessions
  /-- So no edge has two rows of sessions. -/
  sessionsOnce : (graph.kindedSessions.map fun session => session.2.1.key).Nodup
  devices : report.devices.map DeviceRow.name = graph.devices.keys
  /-- The rows of domains stand at the numbers of the domains. -/
  domains : ∀ number row, report.domains[number]? = some row ↔
    ∃ members, graph.domains[number]? = some members ∧ row = DomainRow.mk number (listing members)
  /-- The number in the row of a device is that of the only domain that holds it. -/
  domainOf : ∀ row ∈ report.devices, ∀ number, row.domain = number ↔
    ∃ members, graph.domains[number]? = some members ∧ row.name ∈ members

/-- The totals of a report are those of its graph, section by section. -/
theorem CollectedFrom.agreesWith
    (collected : CollectedFrom graph externalRows internalRows report)
    (parts : graph.BuiltWith devices adjacency selection options internal)
    (named : WellNamed devices) : report.AgreesWith graph := by
  have edgeRows := collected.edges_eq parts named
  have deviceRows := mapM_eq_ok_iff.1 collected.devices
  constructor
  case edgeCount => rw [edgeCount, edgeRows, List.length_map]
  case danglingCount =>
    rw [danglingCount, edgeRows]
    exact length_filter_peer_eq_empty graph _
  case sessions =>
    rw [collected.sessions]
    exact List.rel_append (tells_of_sessionRows collected.external)
      (tells_of_sessionRows collected.internal)
  case sessionsOnce => exact parts.nodup_kindedSessions
  case devices =>
    have sameNames : List.Forall₂ (fun entry row => entry.1 = DeviceRow.name row)
        graph.devices.entries report.devices := by
      refine deviceRows.imp fun entry row isRow => ?_
      obtain ⟨number, _, isRow⟩ := bind_eq_ok_iff.1 isRow
      rw [← pure_eq_ok_iff.1 isRow]
    rw [Table.keys, ← List.forall₂_eq_eq_eq, List.forall₂_map_left_iff,
      List.forall₂_map_right_iff]
    exact sameNames.flip.imp fun _ _ same => same.symm
  case domains =>
    intro number row
    rw [collected.domains, domainRows, List.getElem?_map, List.getElem?_zipIdx]
    simp [eq_comm]
  case domainOf =>
    intro row isRow number
    obtain ⟨entry, _, rowTold⟩ := (mem_mapM_iff collected.devices).1 isRow
    obtain ⟨told, isNumber, rowTold⟩ := bind_eq_ok_iff.1 rowTold
    rw [← parts.domainOf_eq_ok_iff, ← pure_eq_ok_iff.1 rowTold, isNumber, Except.ok.injEq]

theorem exists_agreesWith (isBuilt : Graph.build devices adjacency selection options = .ok graph)
    (named : WellNamed devices) (title : String) :
    ∃ report, collect title graph = .ok report ∧ report.AgreesWith graph := by
  obtain ⟨internal, parts⟩ := Graph.build_eq_ok_iff.1 isBuilt
  obtain ⟨report, collected⟩ := exists_collect isBuilt title
  obtain ⟨_, _, fromGraph⟩ := exists_collectedFrom collected
  exact ⟨report, collected, fromGraph.agreesWith parts named⟩

theorem AgreesWith.danglingCount_eq_iff (agrees : report.AgreesWith graph) :
    report.danglingCount = graph.danglingEdges.length ↔
      ∀ edge ∈ graph.edges.values.flatten, edge.peer ≠ some "" := by
  rw [agrees.danglingCount, Nat.add_eq_left, List.length_eq_zero_iff, Graph.namelessEdges,
    List.filter_eq_nil_iff]
  simp only [beq_iff_eq]

end Report

namespace Snapshot

/-- There is a report on the graph of a snapshot, and its rows agree with the graph. The edges that
it counts as dangling are those that dangle unless a listed edge leads to a device whose name is
the empty text, and only sessions inside autonomous systems run over such edges. -/
theorem collect_agreesWith {path : String} {value : Value} {snapshot : Snapshot}
    {selection : Selection} {graph : Graph} (isRead : Snapshot.read path value = .ok snapshot)
    (isBuilt : snapshot.build selection = .ok graph) (title : String) :
    ∃ report, Report.collect title graph = .ok report ∧ report.AgreesWith graph ∧
      (report.danglingCount = graph.danglingEdges.length ↔
        ∀ edge ∈ graph.edges.values.flatten, edge.peer ≠ some "") ∧
      ∀ edge ∈ graph.edges.values.flatten, edge.peer = some "" → edge.abstract = true := by
  obtain ⟨report, collected, agrees⟩ :=
    Report.exists_agreesWith isBuilt (wellNamed_of_read isRead) title
  obtain ⟨internal, parts⟩ := Graph.build_eq_ok_iff.1 isBuilt
  refine ⟨report, collected, agrees, agrees.danglingCount_eq_iff, ?_⟩
  intro edge isListed isPeer
  apply parts.abstract_of_mem_namelessEdges _ (List.mem_filter.2 ⟨isListed, beq_iff_eq.2 isPeer⟩)
  intro ref other
  exact device_ne_empty_of_listed isRead

theorem collect_agreesWith_borderLink :
    ∃ snapshot graph report, Snapshot.read standardPath borderLink = .ok snapshot ∧
      snapshot.build .all = .ok graph ∧ graph.kindedSessions.length = 4 ∧
      Report.collect Report.standardTitle graph = .ok report ∧ report.AgreesWith graph ∧
      (report.danglingCount = graph.danglingEdges.length ↔
        ∀ edge ∈ graph.edges.values.flatten, edge.peer ≠ some "") ∧
      ∀ edge ∈ graph.edges.values.flatten, edge.peer = some "" → edge.abstract = true := by
  have evaluated : ((Snapshot.read standardPath borderLink).toOption.any fun snapshot =>
      (snapshot.build .all).toOption.any fun graph =>
        decide (graph.kindedSessions.length = 4)) = true := by
    decide +kernel
  obtain ⟨snapshot, isRead, evaluated⟩ := exists_ok_of_any evaluated
  obtain ⟨graph, isBuilt, evaluated⟩ := exists_ok_of_any evaluated
  obtain ⟨report, collected, agrees⟩ := collect_agreesWith isRead isBuilt Report.standardTitle
  exact ⟨snapshot, graph, report, isRead, isBuilt, of_decide_eq_true evaluated, collected, agrees⟩

/-- Two devices with a session inside their autonomous system, one of them without a name. -/
def unnamedPeer : Value :=
  let speaker (here there : String) : Value :=
    .map [(.text "bgp", .map [(.text "neighbors", .list [
      .map [(.text "prefix", .text (there ++ "/32")), (.text "local_as", .int 65000),
        (.text "remote_as", .int 65000), (.text "local_ip", .text here)]])])]
  .map [(.text "devices", .map [
    (.text "a", speaker "10.0.0.1" "10.0.0.2"), (.text "", speaker "10.0.0.2" "10.0.0.1")])]

/-- No edge dangles, and one is counted. -/
theorem exists_overcounted_dangling :
    ∃ snapshot graph report, Snapshot.read standardPath unnamedPeer = .ok snapshot ∧
      snapshot.build .all = .ok graph ∧
      Report.collect Report.standardTitle graph = .ok report ∧
      graph.danglingEdges.length = 0 ∧ report.danglingCount = 1 := by
  have evaluated : ((Snapshot.read standardPath unnamedPeer).toOption.any fun snapshot =>
      (snapshot.build .all).toOption.any fun graph =>
        decide (graph.danglingEdges.length = 0 ∧ graph.namelessEdges.length = 1)) = true := by
    decide +kernel
  obtain ⟨snapshot, isRead, evaluated⟩ := exists_ok_of_any evaluated
  obtain ⟨graph, isBuilt, evaluated⟩ := exists_ok_of_any evaluated
  obtain ⟨noneDangles, oneNameless⟩ := of_decide_eq_true evaluated
  obtain ⟨report, collected, agrees⟩ :=
    Report.exists_agreesWith isBuilt (wellNamed_of_read isRead) Report.standardTitle
  refine ⟨snapshot, graph, report, isRead, isBuilt, collected, noneDangles, ?_⟩
  rw [agrees.danglingCount, noneDangles, oneNameless]

end Snapshot

end RoutingPlane
