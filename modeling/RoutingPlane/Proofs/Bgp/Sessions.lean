import RoutingPlane.Proofs.Bgp.Discovery
import RoutingPlane.Proofs.EdgeMap.Lookup
import RoutingPlane.Proofs.Table.Rows

/-!
The edges of sessions inside autonomous systems. The key of such an edge tells the
two devices of its session, so the edges and what belongs to them are determined by
the discovered sessions, in whatever order these were found.
-/

namespace RoutingPlane.InternalSessions

variable {devices left right : Table String Device} {options : Options}
  {internal : InternalSessions}

/-! ## The edge of a session -/

/-- An edge of a session starts at the device that opens it, and the name of its
local interface tells the remote device. -/
structure RunsFor (options : Options) (pair : DevicePair) (edge : Edge) : Prop where
  router : edge.router = pair.1
  near : edge.near.name = options.sessionNameStart.shown ++ pair.2
  abstract : edge.abstract = true

theorem name_of_sessionInterface {neighbor : BgpNeighbor} {peer : String}
    {interface : Interface} (succeeded : sessionInterface neighbor peer options = .ok interface) :
    interface.name = options.sessionNameStart.shown ++ peer := by
  obtain ⟨address, _, succeeded⟩ := bind_eq_ok_iff.1 succeeded
  rw [← pure_eq_ok_iff.1 succeeded]

theorem runsFor_of_edgeOf {sessions : Table DevicePair BgpNeighbor} {pair : DevicePair}
    {neighbor : BgpNeighbor} {edge : Edge}
    (succeeded : edgeOf sessions options pair neighbor = .ok edge) :
    RunsFor options pair edge := by
  obtain ⟨near, isNear, succeeded⟩ := bind_eq_ok_iff.1 succeeded
  have nearName := name_of_sessionInterface isNear
  cases opposite : sessions.get? (pair.2, pair.1) with
  | none =>
      rw [opposite] at succeeded
      rw [← pure_eq_ok_iff.1 succeeded]
      exact ⟨rfl, nearName, rfl⟩
  | some opposite =>
      simp only [opposite] at succeeded
      obtain ⟨far, _, succeeded⟩ := bind_eq_ok_iff.1 succeeded
      rw [← pure_eq_ok_iff.1 succeeded]
      exact ⟨rfl, nearName, rfl⟩

theorem RunsFor.pair_eq {pair otherPair : DevicePair} {edge other : Edge}
    (runs : RunsFor options pair edge) (otherRuns : RunsFor options otherPair other)
    (sameKey : edge.key = other.key) : pair = otherPair := by
  simp only [Edge.key, EdgeKey.mk.injEq] at sameKey
  obtain ⟨sameRouter, sameName, _⟩ := sameKey
  rw [runs.router, otherRuns.router] at sameRouter
  rw [runs.near, otherRuns.near, String.append_right_inj] at sameName
  exact Prod.ext sameRouter sameName

/-- Between two devices a session is opened by a statement and runs over an edge. -/
structure Opens (devices : Table String Device) (options : Options) (pair : DevicePair)
    (edge : Edge) (neighbor : BgpNeighbor) : Prop where
  statement : (discover devices).get? pair = some neighbor
  runsOver : edgeOf (discover devices) options pair neighbor = .ok edge

variable {pair otherPair : DevicePair} {edge other : Edge}
  {neighbor otherNeighbor : BgpNeighbor}

/-- Two devices have one session, over one edge. -/
theorem Opens.unique (opens : Opens devices options pair edge neighbor)
    (otherOpens : Opens devices options pair other otherNeighbor) :
    edge = other ∧ neighbor = otherNeighbor := by
  have sameStatement : neighbor = otherNeighbor :=
    Option.some.inj (opens.statement.symm.trans otherOpens.statement)
  subst sameStatement
  exact ⟨Except.ok.inj (opens.runsOver.symm.trans otherOpens.runsOver), rfl⟩

/-- The key of an edge of a session determines the session. -/
theorem Opens.pair_eq (opens : Opens devices options pair edge neighbor)
    (otherOpens : Opens devices options otherPair other otherNeighbor)
    (sameKey : edge.key = other.key) : pair = otherPair :=
  (runsFor_of_edgeOf opens.runsOver).pair_eq (runsFor_of_edgeOf otherOpens.runsOver) sameKey

/-- Two devices open sessions to each other over two edges. -/
def Mutual (devices : Table String Device) (options : Options) (edge other : Edge) : Prop :=
  ∃ pair neighbor otherNeighbor, Opens devices options pair edge neighbor ∧
    Opens devices options (pair.2, pair.1) other otherNeighbor

theorem Mutual.unique {left leftOther right rightOther : Edge}
    (mutualLeft : Mutual devices options left leftOther)
    (mutualRight : Mutual devices options right rightOther)
    (sameKey : left.key = right.key) : left = right ∧ leftOther = rightOther := by
  obtain ⟨leftPair, _, _, leftOpens, leftAnswers⟩ := mutualLeft
  obtain ⟨rightPair, _, _, rightOpens, rightAnswers⟩ := mutualRight
  have samePair := leftOpens.pair_eq rightOpens sameKey
  subst samePair
  exact ⟨(leftOpens.unique rightOpens).1, (leftAnswers.unique rightAnswers).1⟩

theorem edgeOf_congr {sessions others : Table DevicePair BgpNeighbor}
    (same : sessions.SameMap others) (options : Options) :
    edgeOf sessions options = edgeOf others options := by
  funext pair neighbor
  simp only [edgeOf, same _]

theorem opens_congr (same : left.SameMap right) :
    Opens left options pair edge neighbor ↔ Opens right options pair edge neighbor := by
  have sameSessions := sameMap_discover same
  have sameEdges := edgeOf_congr sameSessions options
  constructor
  · intro opens
    obtain ⟨statement, runsOver⟩ := opens
    exact ⟨sameSessions pair ▸ statement, sameEdges ▸ runsOver⟩
  · intro opens
    obtain ⟨statement, runsOver⟩ := opens
    exact ⟨(sameSessions pair).symm ▸ statement, sameEdges.symm ▸ runsOver⟩

/-! ## The sessions of all devices -/

/-- The rows of a resolution are the edges of the sessions. -/
theorem mem_rows_iff_opens {rows : List (DevicePair × Edge)}
    (traversed : (discover devices).rows (edgeOf (discover devices) options) = .ok rows) :
    (pair, edge) ∈ rows ↔ ∃ neighbor, Opens devices options pair edge neighbor := by
  rw [Table.mem_rows_iff traversed]
  constructor
  · intro fromSession
    obtain ⟨neighbor, statement, runsOver⟩ := fromSession
    exact ⟨neighbor, statement, runsOver⟩
  · intro opens
    obtain ⟨neighbor, statement, runsOver⟩ := opens
    exact ⟨neighbor, statement, runsOver⟩

theorem mem_openers_iff {sessions : Table DevicePair BgpNeighbor} {opener : String} :
    opener ∈ openers sessions ↔ ∃ remote, (opener, remote) ∈ sessions.keys := by
  simp [openers, List.mem_eraseDups]

/-- The edges of a device are those of the sessions that it opens. -/
theorem mem_edges_iff (succeeded : resolve devices options = .ok internal)
    {router : String} :
    edge ∈ (internal.edges.get? router).getD [] ↔
      ∃ remote neighbor, Opens devices options (router, remote) edge neighbor := by
  obtain ⟨rows, traversed, succeeded⟩ := bind_eq_ok_iff.1 succeeded
  have openersNodup : (openers (discover devices)).Nodup := nodup_eraseDups _
  rw [← pure_eq_ok_iff.1 succeeded, Table.get?_ofList_map openersNodup]
  have isRow : (∃ remote, ((router, remote), edge) ∈ rows) ↔
      ∃ remote neighbor, Opens devices options (router, remote) edge neighbor :=
    exists_congr fun _ => mem_rows_iff_opens traversed
  rw [← isRow]
  constructor
  · intro isEdge
    split at isEdge
    · obtain ⟨⟨⟨opener, remote⟩, _⟩, isKept, rfl⟩ := List.mem_map.1 isEdge
      obtain ⟨isRow, isOpener⟩ := List.mem_filter.1 isKept
      rw [← of_decide_eq_true isOpener]
      exact ⟨remote, isRow⟩
    · simp at isEdge
  · intro hasRow
    obtain ⟨remote, isRow⟩ := hasRow
    have isPair : (router, remote) ∈ (discover devices).keys := by
      rw [← Table.keys_of_rows traversed]
      exact List.mem_map.2 ⟨_, isRow, rfl⟩
    rw [if_pos (mem_openers_iff.2 ⟨remote, isPair⟩)]
    exact List.mem_map.2 ⟨_, List.mem_filter.2 ⟨isRow, decide_eq_true rfl⟩, rfl⟩

/-- Every session stands under the key of its edge. Edges and statements come from one traversal, so
those of a session pair up. -/
theorem table_get?_sessions (succeeded : resolve devices options = .ok internal)
    {key : EdgeKey} {found : Edge × BgpNeighbor} :
    internal.sessions.table.get? key = some found ↔
      found.1.key = key ∧ ∃ pair, Opens devices options pair found.1 found.2 := by
  obtain ⟨rows, traversed, succeeded⟩ := bind_eq_ok_iff.1 succeeded
  rw [← pure_eq_ok_iff.1 succeeded]
  have isEntry : ∀ entry, entry ∈ (rows.map Prod.snd).zip (discover devices).values ↔
      ∃ pair, Opens devices options pair entry.1 entry.2 := by
    rintro ⟨edge, neighbor⟩
    rw [Table.mem_zip_rows_iff traversed]
    refine exists_congr fun pair => ⟨?_, ?_⟩
    · intro isPaired
      obtain ⟨isSession, runsOver⟩ := isPaired
      exact ⟨Table.get?_eq_some_iff.2 isSession, runsOver⟩
    · intro opens
      obtain ⟨statement, runsOver⟩ := opens
      exact ⟨Table.get?_eq_some_iff.1 statement, runsOver⟩
  have consistent :
      EdgeMap.Consistent ((rows.map Prod.snd).zip (discover devices).values) := by
    intro left isLeft right isRight sameKey
    obtain ⟨leftPair, leftOpens⟩ := (isEntry left).1 isLeft
    obtain ⟨rightPair, rightOpens⟩ := (isEntry right).1 isRight
    have samePair := leftOpens.pair_eq rightOpens sameKey
    subst samePair
    obtain ⟨sameEdge, sameNeighbor⟩ := leftOpens.unique rightOpens
    exact Prod.ext sameEdge sameNeighbor
  rw [EdgeMap.table_get?_ofList consistent, isEntry, and_comm]

/-- The opposite direction of the edge of a session is that of the session which
the remote device opens. -/
theorem mem_reverse_iff (succeeded : resolve devices options = .ok internal) :
    (edge, other) ∈ internal.reverse.entries ↔ Mutual devices options edge other := by
  obtain ⟨rows, traversed, succeeded⟩ := bind_eq_ok_iff.1 succeeded
  rw [← pure_eq_ok_iff.1 succeeded]
  have byPair : ∀ pair edge, (Table.ofList rows).get? pair = some edge ↔
      ∃ neighbor, Opens devices options pair edge neighbor := by
    intro pair edge
    rw [Table.get?_ofList_eq_some_iff (Table.nodup_of_rows traversed),
      mem_rows_iff_opens traversed]
  have isEntry : ∀ entry, entry ∈ (rows.filterMap fun row =>
      ((Table.ofList rows).get? (row.1.2, row.1.1)).map fun other => (row.2, other)) ↔
        Mutual devices options entry.1 entry.2 := by
    intro entry
    rw [List.mem_filterMap]
    constructor
    · intro fromRow
      obtain ⟨⟨pair, edge⟩, isRow, isReverse⟩ := fromRow
      obtain ⟨other, isOther, rfl⟩ := Option.map_eq_some_iff.1 isReverse
      obtain ⟨neighbor, opens⟩ := (mem_rows_iff_opens traversed).1 isRow
      obtain ⟨otherNeighbor, answers⟩ := (byPair _ _).1 isOther
      exact ⟨pair, neighbor, otherNeighbor, opens, answers⟩
    · intro isMutual
      obtain ⟨pair, neighbor, otherNeighbor, opens, answers⟩ := isMutual
      refine ⟨(pair, entry.1), (mem_rows_iff_opens traversed).2 ⟨neighbor, opens⟩, ?_⟩
      exact Option.map_eq_some_iff.2
        ⟨entry.2, (byPair _ _).2 ⟨otherNeighbor, answers⟩, rfl⟩
  have consistent : EdgeMap.Consistent (rows.filterMap fun row =>
      ((Table.ofList rows).get? (row.1.2, row.1.1)).map fun other => (row.2, other)) := by
    intro left isLeft right isRight sameKey
    obtain ⟨sameEdge, sameOther⟩ :=
      ((isEntry left).1 isLeft).unique ((isEntry right).1 isRight) sameKey
    exact Prod.ext sameEdge sameOther
  rw [EdgeMap.mem_entries_ofList consistent, isEntry]

theorem consistent_reverse (succeeded : resolve devices options = .ok internal) :
    EdgeMap.Consistent internal.reverse.entries := by
  rintro ⟨left, leftOther⟩ isLeft ⟨right, rightOther⟩ isRight sameKey
  obtain ⟨rfl, rfl⟩ := ((mem_reverse_iff succeeded).1 isLeft).unique
    ((mem_reverse_iff succeeded).1 isRight) sameKey
  rfl

theorem abstract_of_mem_edges (succeeded : resolve devices options = .ok internal)
    {router : String} (isEdge : edge ∈ (internal.edges.get? router).getD []) :
    edge.abstract = true := by
  obtain ⟨remote, neighbor, opens⟩ := (mem_edges_iff succeeded).1 isEdge
  exact (runsFor_of_edgeOf opens.runsOver).abstract

theorem abstract_of_mem_reverse (succeeded : resolve devices options = .ok internal)
    (isReverse : (edge, other) ∈ internal.reverse.entries) : edge.abstract = true := by
  obtain ⟨pair, neighbor, _, opens, _⟩ := (mem_reverse_iff succeeded).1 isReverse
  exact (runsFor_of_edgeOf opens.runsOver).abstract

/-! ## Devices in another order -/

/-- Two resolutions differ only in their order, their reflectors and the numbers of
their devices. -/
structure SameSessions (left right : InternalSessions) : Prop where
  edges : ∀ router edge,
    edge ∈ (left.edges.get? router).getD [] ↔ edge ∈ (right.edges.get? router).getD []
  sessions : left.sessions.SameMap right.sessions
  reverse : ∀ found, found ∈ left.reverse.entries ↔ found ∈ right.reverse.entries

/-- Sessions are resolved exactly if the edge of each of them can be made. -/
theorem exists_resolve_iff :
    (∃ internal, resolve devices options = .ok internal) ↔
      ∀ pair neighbor, (discover devices).get? pair = some neighbor →
        ∃ edge, edgeOf (discover devices) options pair neighbor = .ok edge := by
  rw [← Table.exists_rows_iff]
  constructor
  · intro succeeds
    obtain ⟨internal, succeeded⟩ := succeeds
    obtain ⟨rows, traversed, _⟩ := bind_eq_ok_iff.1 succeeded
    exact ⟨rows, traversed⟩
  · intro succeeds
    obtain ⟨rows, traversed⟩ := succeeds
    exact ⟨_, bind_eq_ok_iff.2 ⟨rows, traversed, rfl⟩⟩

/-- Devices in another order have the same sessions, or none of the two is resolved. -/
theorem alike_resolve (same : left.SameMap right) (options : Options) :
    Alike SameSessions (resolve left options) (resolve right options) := by
  have sameSessions := sameMap_discover same
  apply Alike.of_exists_iff
  · rw [exists_resolve_iff, exists_resolve_iff, edgeOf_congr sameSessions]
    simp only [sameSessions _]
  intro leftInternal rightInternal leftSucceeded rightSucceeded
  constructor
  · intro router edge
    simp only [mem_edges_iff leftSucceeded, mem_edges_iff rightSucceeded, opens_congr same]
  · intro key
    apply Option.ext
    intro found
    simp only [table_get?_sessions leftSucceeded, table_get?_sessions rightSucceeded,
      opens_congr same]
  · rintro ⟨edge, other⟩
    simp only [mem_reverse_iff leftSucceeded, mem_reverse_iff rightSucceeded, Mutual,
      opens_congr same]

end RoutingPlane.InternalSessions
