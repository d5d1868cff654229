import RoutingPlane.Proofs.Report.Diagram

/-!
The nodes of a diagram. The identifier of a device keeps the alphanumeric characters of its name
and has the same mark for every other one, so it does not tell apart names that differ in such
characters only. A line between two nodes tells their identifiers, whatever the names of the
interfaces on it are, and it tells the two devices exactly if no two devices of the graph have
names of this kind.
-/

namespace RoutingPlane

open RoutingPlane.Text

namespace Mermaid

/-! ## Identifiers -/

/-- Two names look alike if they differ at most in places where neither has an alphanumeric
character. -/
def LooksLike (name other : String) : Prop :=
  List.Forall₂ (fun c d => c = d ∨ (isAlphanumeric c = false ∧ isAlphanumeric d = false))
    name.toList other.toList

theorem isAlphanumeric_mark : isAlphanumeric '_' = false := by
  decide +kernel

theorem isAlphanumeric_space : isAlphanumeric ' ' = false := by
  decide +kernel

/-- The character that stands in an identifier for one of a name. -/
def nodeChar (c : Char) : Char :=
  if isAlphanumeric c then c else '_'

/-- Two characters are alike in identifiers exactly if they are equal or neither is alphanumeric.
The mark itself is not, so it is kept for no character. -/
theorem nodeChar_eq_iff {c d : Char} :
    nodeChar c = nodeChar d ↔ c = d ∨ (isAlphanumeric c = false ∧ isAlphanumeric d = false) := by
  have ne_mark : ∀ {kept : Char}, isAlphanumeric kept = true → kept ≠ '_' := by
    rintro kept isKept rfl
    rw [isAlphanumeric_mark] at isKept
    cases isKept
  cases isKept : isAlphanumeric c <;> cases otherKept : isAlphanumeric d
  case false.false => simp [nodeChar, isKept, otherKept]
  case true.true => simp [nodeChar, isKept, otherKept]
  case false.true =>
    have differ : c ≠ d := fun same => by simp [← same, isKept] at otherKept
    simp [nodeChar, isKept, otherKept, differ, (ne_mark otherKept).symm]
  case true.false =>
    have differ : c ≠ d := fun same => by simp [← same, isKept] at otherKept
    simp [nodeChar, isKept, otherKept, differ, ne_mark isKept]

theorem toList_nodeId (name : String) : (nodeId name).toList = name.toList.map nodeChar := by
  rw [nodeId, String.toList_ofList]
  rfl

/-- Names have the same identifier exactly if they look alike. -/
theorem nodeId_eq_iff {name other : String} :
    nodeId name = nodeId other ↔ LooksLike name other := by
  rw [← String.toList_inj, toList_nodeId, toList_nodeId, ← List.forall₂_eq_eq_eq,
    List.forall₂_map_left_iff, List.forall₂_map_right_iff]
  simp only [nodeChar_eq_iff]
  rfl

theorem space_not_mem_nodeId (name : String) : ' ' ∉ (nodeId name).toList := by
  rw [toList_nodeId, List.mem_map]
  rintro ⟨c, _, isSpace⟩
  rw [nodeChar] at isSpace
  split at isSpace
  next isKept =>
    rw [isSpace, isAlphanumeric_space] at isKept
    cases isKept
  next => exact absurd isSpace (by decide)

/-! ## Lines -/

namespace Line

def label (line : Line) : List Char :=
  let interfaces := line.first.interface.toList ++ '-' :: line.second.interface.toList
  match line.kind with
  | .session => "-.-|iBGP|".toList
  | .boundary => "---|eBGP ".toList ++ interfaces ++ ['|']
  | .link => "---|".toList ++ interfaces ++ ['|']

theorem toList_text (line : Line) :
    line.text.toList = "    ".toList ++ ((nodeId line.first.device).toList ++
      ' ' :: (line.label ++ ' ' :: (nodeId line.second.device).toList)) := by
  obtain ⟨first, second, kind⟩ := line
  cases kind <;> simp [text, label]

/-- A line tells the identifiers of its nodes: they stand before its first space and after its
last one. -/
theorem nodeIds_of_text_eq {line other : Line} (same : line.text = other.text) :
    nodeId line.first.device = nodeId other.first.device ∧
      nodeId line.second.device = nodeId other.second.device := by
  have same := congrArg String.toList same
  rw [toList_text, toList_text, List.append_cancel_left_eq] at same
  have fromStart := congrArg (cut? ' ') same
  rw [cut?_append_cons _ (space_not_mem_nodeId _), cut?_append_cons _ (space_not_mem_nodeId _),
    Option.some.injEq, Prod.mk.injEq] at fromStart
  obtain ⟨sameFirst, sameRest⟩ := fromStart
  have fromEnd := congrArg (fun rest => cut? ' ' rest.reverse) sameRest
  simp only [List.reverse_append, List.reverse_cons, List.append_assoc, List.singleton_append]
    at fromEnd
  have noSpace : ∀ name : String, ' ' ∉ (nodeId name).toList.reverse := fun name =>
    List.mem_reverse.not.2 (space_not_mem_nodeId name)
  rw [cut?_append_cons _ (noSpace _), cut?_append_cons _ (noSpace _), Option.some.injEq,
    Prod.mk.injEq, List.reverse_inj] at fromEnd
  exact ⟨String.toList_inj.1 sameFirst, String.toList_inj.1 fromEnd.1⟩

end Line

/-- A line joins two different devices of a graph. -/
structure Line.JoinsDevices (graph : Graph) (line : Line) : Prop where
  first : line.first.device ∈ graph.devices.keys
  second : line.second.device ∈ graph.devices.keys
  differ : line.first.device ≠ line.second.device

/-- A diagram tells the devices of a graph apart: no two of them have the same node, and no line
could as well be one between other devices. -/
structure TellsDevicesApart (graph : Graph) (lines : List Line) : Prop where
  nodes : (graph.devices.keys.map nodeId).Nodup
  ends : ∀ line ∈ lines, ∀ other : Line, other.JoinsDevices graph → other.text = line.text →
    other.first.device = line.first.device ∧ other.second.device = line.second.device

/-- Putting the ends of an edge in order keeps the two devices. -/
theorem devices_of_orderedEnds? {edge : EdgeKey} {first second : InterfaceRef}
    (inOrder : orderedEnds? edge = some (first, second)) :
    ∃ peer, edge.peer = some peer ∧
      s(first.device, second.device) = s(edge.router, peer) := by
  unfold orderedEnds? at inOrder
  split at inOrder
  next peer far isPeer _ =>
    refine ⟨peer, isPeer, ?_⟩
    simp only [Option.some.injEq] at inOrder
    split at inOrder
    · cases inOrder
      rfl
    · cases inOrder
      exact Sym2.eq_swap
  · cases inOrder

/-- If every line joins two devices, these are told apart exactly if no two names look alike. -/
theorem tellsDevicesApart_iff {graph : Graph} {lines : List Line}
    (join : ∀ line ∈ lines, line.JoinsDevices graph) :
    TellsDevicesApart graph lines ↔ ∀ name ∈ graph.devices.keys, ∀ other ∈ graph.devices.keys,
      LooksLike name other → name = other := by
  have nodes_iff : (graph.devices.keys.map nodeId).Nodup ↔
      ∀ name ∈ graph.devices.keys, ∀ other ∈ graph.devices.keys,
        LooksLike name other → name = other := by
    have nodup : graph.devices.keys.Nodup := graph.devices.keysNodup
    rw [List.nodup_map_iff_inj_on nodup]
    simp only [nodeId_eq_iff]
  constructor
  · exact fun apart => nodes_iff.1 apart.nodes
  · intro lookDifferent
    refine ⟨nodes_iff.2 lookDifferent, fun line isLine other joins sameText => ?_⟩
    obtain ⟨sameFirst, sameSecond⟩ := Line.nodeIds_of_text_eq sameText
    rw [nodeId_eq_iff] at sameFirst sameSecond
    have lineJoins := join line isLine
    exact ⟨lookDifferent _ joins.first _ lineJoins.first sameFirst,
      lookDifferent _ joins.second _ lineJoins.second sameSecond⟩

end Mermaid

/-! ## Graphs -/

namespace Graph

variable {devices : Table String Device} {adjacency : Adjacency} {selection : Selection}
  {options : Options} {graph : Graph} {internal : InternalSessions} {router peer : String}
  {edge : Edge}

/-- An edge with a known peer leads from one device of the graph to another one. -/
theorem BuiltWith.modelled_of_peer
    (parts : BuiltWith devices adjacency selection options graph internal)
    (isListed : edge ∈ graph.edgesOf router) (isPeer : edge.peer = some peer) :
    edge.router ∈ graph.devices.keys ∧ peer ∈ graph.devices.keys ∧ edge.router ≠ peer := by
  rcases parts.of_mem_edgesOf isListed with ⟨device, isDevice, isLink⟩ | ⟨pair, opens, rfl⟩
  · obtain ⟨name, interface, _, isFrom⟩ := Topology.mem_edgesOf_iff.1 isLink
    rcases Topology.of_mem_edgesFrom isFrom with rfl | ⟨other, far, isEnd, isOther, rfl⟩
    · cases isPeer
    · obtain ⟨remote, isRemote, _⟩ :=
        Topology.interfaceAt?_eq_some_iff.1 (Topology.mem_ends_iff.1 isEnd).2
      cases isPeer
      exact ⟨Table.mem_keys_iff_exists.2 ⟨device, isDevice⟩,
        Table.mem_keys_iff_exists.2 ⟨remote, isRemote⟩, isOther.symm⟩
  · obtain ⟨differ, device, remote, _, isDevice, isRemote, _⟩ := opens
    obtain ⟨_, _, rfl⟩ := Option.map_eq_some_iff.1 isPeer
    exact ⟨Table.mem_keys_iff_exists.2 ⟨device, isDevice⟩,
      Table.mem_keys_iff_exists.2 ⟨remote, isRemote⟩, differ⟩

theorem BuiltWith.joinsDevices
    (parts : BuiltWith devices adjacency selection options graph internal) {line : Mermaid.Line}
    (isDrawn : line ∈ Mermaid.edgeLines graph) : line.JoinsDevices graph := by
  obtain ⟨key, isKey, isLine⟩ := List.mem_filterMap.1 isDrawn
  obtain ⟨edge, isEdge, rfl⟩ := List.mem_map.1 isKey
  obtain ⟨router, isListed⟩ := parts.mem_allListed_iff.1 isEdge
  obtain ⟨⟨first, second⟩, inOrder, rfl⟩ := Option.map_eq_some_iff.1 isLine
  obtain ⟨peer, isPeer, sameDevices⟩ := Mermaid.devices_of_orderedEnds? inOrder
  obtain ⟨hasRouter, hasPeer, differ⟩ := parts.modelled_of_peer isListed isPeer
  rcases Sym2.eq_iff.1 sameDevices with ⟨isFirst, isSecond⟩ | ⟨isFirst, isSecond⟩
  · exact ⟨isFirst ▸ hasRouter, isSecond ▸ hasPeer, isFirst ▸ isSecond ▸ differ⟩
  · exact ⟨isFirst ▸ hasPeer, isSecond ▸ hasRouter, isFirst ▸ isSecond ▸ differ.symm⟩

/-- The diagram of a graph declares a node for every device and joins two different devices by
every line. It tells the devices apart exactly if no two of them have names that look alike. -/
theorem diagram_tellsDevicesApart_iff
    (isBuilt : Graph.build devices adjacency selection options = .ok graph) :
    ∃ lines : List Mermaid.Line,
      Mermaid.diagram graph = String.intercalate "\n"
        ("graph LR" :: graph.devices.keys.map Mermaid.nodeLine ++ lines.map Mermaid.Line.text) ∧
      (∀ line ∈ lines, line.JoinsDevices graph) ∧
      (Mermaid.TellsDevicesApart graph lines ↔
        ∀ name ∈ graph.devices.keys, ∀ other ∈ graph.devices.keys,
          Mermaid.LooksLike name other → name = other) := by
  obtain ⟨internal, parts⟩ := build_eq_ok_iff.1 isBuilt
  have join : ∀ line ∈ Mermaid.firstsBy Mermaid.Line.key [] (Mermaid.edgeLines graph),
      line.JoinsDevices graph :=
    fun line isKept => parts.joinsDevices ((Mermaid.firstsBy_sublist _ _ _).mem isKept)
  refine ⟨_, ?_, join, Mermaid.tellsDevicesApart_iff join⟩
  rw [Mermaid.diagram, Mermaid.lines, Mermaid.linkLines_eq]

/-- Devices that are linked in pairs, on their only interfaces. -/
def pairLinks (pairs : List (String × String)) : Value :=
  let device (address : String) : Value :=
    .map [(.text "interfaces", .map [(.text "eth0", .map [(.text "prefix", .text address)])])]
  .map [
    (.text "devices", .map (pairs.flatMap fun (name, other) =>
      [(.text name, device "10.0.0.1/30"), (.text other, device "10.0.0.2/30")])),
    (.text "links", .list (pairs.map fun (name, other) =>
      .list [.text (name ++ ":eth0"), .text (other ++ ":eth0")]))]

theorem diagram_tellsDevicesApart_iff_pairLinks :
    ∃ snapshot graph,
      Snapshot.read Snapshot.standardPath (pairLinks [("r-1", "s-1"), ("r_2", "s_2")]) =
        .ok snapshot ∧
      snapshot.build .all = .ok graph ∧
      Mermaid.lines graph = ["graph LR", "    r_1[r-1]", "    s_1[s-1]", "    r_2[r_2]",
        "    s_2[s_2]", "    r_1 ---|eth0-eth0| s_1", "    r_2 ---|eth0-eth0| s_2"] ∧
      ∃ lines : List Mermaid.Line,
        Mermaid.diagram graph = String.intercalate "\n"
          ("graph LR" :: graph.devices.keys.map Mermaid.nodeLine ++
            lines.map Mermaid.Line.text) ∧
        Mermaid.TellsDevicesApart graph lines := by
  have evaluated : ((Snapshot.read Snapshot.standardPath
      (pairLinks [("r-1", "s-1"), ("r_2", "s_2")])).toOption.any fun snapshot =>
        (snapshot.build .all).toOption.any fun graph =>
          decide (Mermaid.lines graph = ["graph LR", "    r_1[r-1]", "    s_1[s-1]",
              "    r_2[r_2]", "    s_2[s_2]", "    r_1 ---|eth0-eth0| s_1",
              "    r_2 ---|eth0-eth0| s_2"] ∧
            ∀ name ∈ graph.devices.keys, ∀ other ∈ graph.devices.keys,
              Mermaid.nodeId name = Mermaid.nodeId other → name = other)) = true := by
    decide +kernel
  obtain ⟨snapshot, isRead, evaluated⟩ := exists_ok_of_any evaluated
  obtain ⟨graph, isBuilt, evaluated⟩ := exists_ok_of_any evaluated
  obtain ⟨drawn, identifiersDiffer⟩ := of_decide_eq_true evaluated
  obtain ⟨lines, isDiagram, _, apart_iff⟩ := diagram_tellsDevicesApart_iff isBuilt
  refine ⟨snapshot, graph, isRead, isBuilt, drawn, lines, isDiagram, apart_iff.2 ?_⟩
  exact fun name isName other isOther alike =>
    identifiersDiffer name isName other isOther (Mermaid.nodeId_eq_iff.2 alike)

/-- Four devices have two nodes, and the lines of two links are the same. -/
theorem exists_sharedNode :
    ∃ snapshot graph,
      Snapshot.read Snapshot.standardPath (pairLinks [("r-1", "s-1"), ("r_1", "s_1")]) =
        .ok snapshot ∧
      snapshot.build .all = .ok graph ∧
      "r-1" ∈ graph.devices.keys ∧ "r_1" ∈ graph.devices.keys ∧
      Mermaid.nodeId "r-1" = Mermaid.nodeId "r_1" ∧
      Mermaid.lines graph = ["graph LR", "    r_1[r-1]", "    s_1[s-1]", "    r_1[r_1]",
        "    s_1[s_1]", "    r_1 ---|eth0-eth0| s_1", "    r_1 ---|eth0-eth0| s_1"] := by
  have evaluated : ((Snapshot.read Snapshot.standardPath
      (pairLinks [("r-1", "s-1"), ("r_1", "s_1")])).toOption.any fun snapshot =>
        (snapshot.build .all).toOption.any fun graph =>
          decide ("r-1" ∈ graph.devices.keys ∧ "r_1" ∈ graph.devices.keys ∧
            Mermaid.nodeId "r-1" = Mermaid.nodeId "r_1" ∧
            Mermaid.lines graph = ["graph LR", "    r_1[r-1]", "    s_1[s-1]", "    r_1[r_1]",
              "    s_1[s_1]", "    r_1 ---|eth0-eth0| s_1",
              "    r_1 ---|eth0-eth0| s_1"])) = true := by
    decide +kernel
  obtain ⟨snapshot, isRead, evaluated⟩ := exists_ok_of_any evaluated
  obtain ⟨graph, isBuilt, evaluated⟩ := exists_ok_of_any evaluated
  exact ⟨snapshot, graph, isRead, isBuilt, of_decide_eq_true evaluated⟩

end Graph

end RoutingPlane
