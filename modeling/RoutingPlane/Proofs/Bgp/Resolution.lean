import RoutingPlane.Proofs.Address.Printed
import RoutingPlane.Proofs.Bgp.Sessions
import RoutingPlane.Proofs.EdgeMap.Keyed

/-!
The sessions inside autonomous systems, session by session. They are resolved for all
devices and settings, because the address of a made up interface is the text of a
network, which can be read. Every pair of devices of which one opens a session to the
other has an edge of its own, and nothing else does.
-/

namespace RoutingPlane

/-- Whether a note tells of a session that one of its devices only opens. -/
def Note.isOneSidedSession : Note → Bool
  | .oneSidedSession _ _ => true
  | _ => false

namespace InternalSessions

variable {devices : Table String Device} {options : Options} {internal : InternalSessions}
  {pair other : DevicePair} {edge opposite : Edge} {neighbor : BgpNeighbor} {key : EdgeKey}

/-- A device opens a session to another one: the network of one of its internal
statements has the version of the local address of the other one and holds it. -/
def HasSession (devices : Table String Device) (pair : DevicePair) : Prop :=
  pair.1 ≠ pair.2 ∧ ∃ device remote address,
    devices.get? pair.1 = some device ∧ devices.get? pair.2 = some remote ∧
      localAddress? remote = some address ∧ ∃ neighbor ∈ internalNeighbors device,
        neighbor.peers.version = address.version ∧ neighbor.peers.contains address = true

/-- Two devices have a session exactly if the first one has a statement that opens it. -/
theorem hasSession_iff :
    HasSession devices pair ↔
      ∃ neighbor, openingStatement? devices pair.1 pair.2 = some neighbor := by
  unfold openingStatement?
  by_cases same : pair.1 = pair.2
  · simp [HasSession, same]
  · rw [if_neg same]
    constructor
    · rintro ⟨_, device, remote, address, isDevice, isRemote, isLocal, neighbor, isStatement, _, holds⟩
      have localFound : (devices.get? pair.2).bind localAddress? = some address := by
        rw [isRemote, Option.bind_some, isLocal]
      simp only [isDevice, localFound]
      rw [← Option.isSome_iff_exists, List.find?_isSome]
      exact ⟨neighbor, isStatement, holds⟩
    · rintro ⟨neighbor, isFirst⟩
      split at isFirst
      next device address isDevice isLocal =>
        obtain ⟨remote, isRemote, isLocal⟩ := Option.bind_eq_some_iff.1 isLocal
        have holds := List.find?_some isFirst
        exact ⟨same, device, remote, address, isDevice, isRemote, isLocal, neighbor,
          List.mem_of_find?_eq_some isFirst, Network.version_eq_of_contains holds, holds⟩
      · cases isFirst

theorem mem_keys_discover_iff : pair ∈ (discover devices).keys ↔ HasSession devices pair := by
  rw [Table.mem_keys_iff_exists, hasSession_iff]
  refine exists_congr fun neighbor => ?_
  rw [← get?_discover]

/-! ## The edge of a session -/

/-- The made up interface of a session, with the network of its statement as address. -/
def carrier (options : Options) (statement : Option BgpNeighbor) (remote : String) : Interface where
  name := options.sessionNameStart.shown ++ remote
  address := statement.map fun neighbor =>
    ⟨neighbor.peers.base, neighbor.peers.length, neighbor.peers.length_le⟩
  kind := .abstract

theorem sessionInterface_eq (neighbor : BgpNeighbor) (remote : String) (options : Options) :
    sessionInterface neighbor remote options = .ok (carrier options (some neighbor) remote) := by
  rw [sessionInterface, InterfaceAddress.read, InterfaceAddress.readAs_networkText]
  rfl

/-- The edge between two devices: it leads to the second one if that one opens a
session too, and dangles otherwise. -/
def sessionEdge (devices : Table String Device) (options : Options) (pair : DevicePair) : Edge where
  router := pair.1
  near := carrier options (openingStatement? devices pair.1 pair.2) pair.2
  peer := (openingStatement? devices pair.2 pair.1).map fun _ => pair.2
  far := (openingStatement? devices pair.2 pair.1).map fun answer =>
    carrier options (some answer) pair.1
  abstract := true

theorem edgeOf_eq (opened : (discover devices).get? pair = some neighbor) :
    edgeOf (discover devices) options pair neighbor = .ok (sessionEdge devices options pair) := by
  have isFirst : openingStatement? devices pair.1 pair.2 = some neighbor := by
    rw [← get?_discover]
    exact opened
  rw [edgeOf, sessionInterface_eq, get?_discover, sessionEdge, isFirst]
  cases openingStatement? devices pair.2 pair.1 with
  | none => rfl
  | some answer =>
      simp only [sessionInterface_eq]
      rfl

/-- The edges of two pairs of devices are not equal, whatever the devices and the made
up interfaces are called. -/
theorem key_sessionEdge_injective (devices : Table String Device) (options : Options) :
    Function.Injective fun pair => (sessionEdge devices options pair).key := by
  intro pair other sameKey
  have runs : RunsFor options pair (sessionEdge devices options pair) := ⟨rfl, rfl, rfl⟩
  exact runs.pair_eq ⟨rfl, rfl, rfl⟩ sameKey

theorem opens_iff : Opens devices options pair edge neighbor ↔
    openingStatement? devices pair.1 pair.2 = some neighbor ∧
      edge = sessionEdge devices options pair := by
  have sameStatement : (discover devices).get? pair = openingStatement? devices pair.1 pair.2 :=
    get?_discover devices pair.1 pair.2
  constructor
  · rintro ⟨statement, runsOver⟩
    rw [edgeOf_eq statement] at runsOver
    exact ⟨sameStatement ▸ statement, (Except.ok.inj runsOver).symm⟩
  · rintro ⟨isFirst, rfl⟩
    have statement := sameStatement.trans isFirst
    exact ⟨statement, edgeOf_eq statement⟩

theorem mutual_iff : Mutual devices options edge opposite ↔
    ∃ pair, HasSession devices pair ∧ HasSession devices (pair.2, pair.1) ∧
      edge = sessionEdge devices options pair ∧
        opposite = sessionEdge devices options (pair.2, pair.1) := by
  simp only [Mutual, opens_iff, hasSession_iff]
  constructor
  · rintro ⟨pair, neighbor, answer, ⟨isFirst, isEdge⟩, answers, isOpposite⟩
    exact ⟨pair, ⟨neighbor, isFirst⟩, ⟨answer, answers⟩, isEdge, isOpposite⟩
  · rintro ⟨pair, ⟨neighbor, isFirst⟩, ⟨answer, answers⟩, isEdge, isOpposite⟩
    exact ⟨pair, neighbor, answer, ⟨isFirst, isEdge⟩, answers, isOpposite⟩

/-! ## All sessions -/

/-- The sessions with their edges, as they are gone through. -/
theorem rows_discover :
    (discover devices).rows (edgeOf (discover devices) options) =
      .ok ((discover devices).keys.map fun pair => (pair, sessionEdge devices options pair)) := by
  rw [Table.rows, mapM_eq_ok_iff, Table.keys, List.map_map, List.forall₂_map_right_iff,
    List.forall₂_same]
  intro entry isEntry
  have opened : (discover devices).get? entry.1 = some entry.2 := Table.get?_eq_some_iff.2 isEntry
  simp [edgeOf_eq opened, bind, Except.bind, pure, Except.pure]

theorem exists_resolve (devices : Table String Device) (options : Options) :
    ∃ internal, resolve devices options = .ok internal :=
  exists_resolve_iff.2 fun _ _ opened => ⟨_, edgeOf_eq opened⟩

theorem sessions_eq (succeeded : resolve devices options = .ok internal) :
    internal.sessions = EdgeMap.ofList ((discover devices).entries.map fun entry =>
      (sessionEdge devices options entry.1, entry.2)) := by
  obtain ⟨rows, traversed, succeeded⟩ := bind_eq_ok_iff.1 succeeded
  have areRows := Except.ok.inj (traversed.symm.trans rows_discover)
  have entered : (rows.map Prod.snd).zip (discover devices).values =
      (discover devices).entries.map fun entry =>
        (sessionEdge devices options entry.1, entry.2) := by
    rw [areRows, Table.keys, Table.values, List.map_map, List.map_map]
    exact List.zip_map'
  rw [← pure_eq_ok_iff.1 succeeded, entered]

theorem entries_sessions (succeeded : resolve devices options = .ok internal) :
    internal.sessions.entries =
      (discover devices).entries.map fun entry => (sessionEdge devices options entry.1, entry.2) := by
  have keysDiffer : (((discover devices).entries.map fun entry =>
      (sessionEdge devices options entry.1, entry.2)).map fun entry => entry.1.key).Nodup := by
    have pairsDiffer :=
      (discover devices).keysNodup.map (key_sessionEdge_injective devices options)
    rw [List.map_map] at pairsDiffer ⊢
    exact pairsDiffer
  rw [sessions_eq succeeded, EdgeMap.entries_ofList keysDiffer]

/-- A device holds the edges of the sessions that it opens. One that opens none is not entered, and
no pair starts at it. -/
theorem getD_edges (succeeded : resolve devices options = .ok internal) (router : String) :
    (internal.edges.get? router).getD [] =
      ((discover devices).keys.filter fun pair => decide (pair.1 = router)).map
        (sessionEdge devices options) := by
  obtain ⟨rows, traversed, succeeded⟩ := bind_eq_ok_iff.1 succeeded
  have areRows := Except.ok.inj (traversed.symm.trans rows_discover)
  have openersNodup : (openers (discover devices)).Nodup := nodup_eraseDups _
  rw [← pure_eq_ok_iff.1 succeeded, Table.get?_ofList_map openersNodup, areRows]
  split
  · rw [Option.getD_some, List.filter_map, List.map_map]
    rfl
  next opensNone =>
    have noPair : ∀ pair ∈ (discover devices).keys, ¬decide (pair.1 = router) = true := by
      intro pair isPair opens
      rw [← of_decide_eq_true opens] at opensNone
      exact opensNone (mem_openers_iff.2 ⟨pair.2, isPair⟩)
    rw [List.filter_eq_nil_iff.2 noPair]
    rfl

theorem get?_sessions (succeeded : resolve devices options = .ok internal)
    (isFirst : openingStatement? devices pair.1 pair.2 = some neighbor) :
    internal.sessions.get? (sessionEdge devices options pair).key = some neighbor := by
  have keyed : internal.sessions.Keyed := by
    rw [sessions_eq succeeded]
    exact EdgeMap.keyed_ofList _
  have discovered : (discover devices).get? pair = some neighbor := by
    rw [← isFirst, ← get?_discover]
  have isEntry : (sessionEdge devices options pair, neighbor) ∈ internal.sessions.entries := by
    rw [entries_sessions succeeded]
    exact List.mem_map.2 ⟨(pair, neighbor), Table.get?_eq_some_iff.1 discovered, rfl⟩
  exact keyed.get?_eq_some_iff.2 ⟨_, isEntry, rfl⟩

theorem keyed_reverse (succeeded : resolve devices options = .ok internal) :
    internal.reverse.Keyed := by
  obtain ⟨rows, _, succeeded⟩ := bind_eq_ok_iff.1 succeeded
  rw [← pure_eq_ok_iff.1 succeeded]
  exact EdgeMap.keyed_ofList _

/-- The edge of a session has an opposite exactly if both devices open it. The key tells the pair,
so no other session can be found. -/
theorem get?_reverse_iff (succeeded : resolve devices options = .ok internal) :
    internal.reverse.get? (sessionEdge devices options pair).key = some opposite ↔
      HasSession devices pair ∧ HasSession devices (pair.2, pair.1) ∧
        opposite = sessionEdge devices options (pair.2, pair.1) := by
  rw [(keyed_reverse succeeded).get?_eq_some_iff]
  simp only [mem_reverse_iff succeeded, mutual_iff]
  constructor
  · rintro ⟨_, ⟨other, opens, answers, rfl, isOpposite⟩, sameKey⟩
    have samePair := key_sessionEdge_injective devices options sameKey
    subst samePair
    exact ⟨opens, answers, isOpposite⟩
  · rintro ⟨opens, answers, isOpposite⟩
    exact ⟨_, ⟨pair, opens, answers, rfl, isOpposite⟩, rfl⟩

/-! ## Notes -/

theorem exists_of_mem_oneSidedNotes {sessions : Table DevicePair BgpNeighbor} {note : Note}
    (isNote : note ∈ oneSidedNotes sessions) :
    ∃ device remote, note = .oneSidedSession device remote := by
  obtain ⟨pair, _, rfl⟩ := List.mem_map.1 isNote
  exact ⟨pair.1, pair.2, rfl⟩

theorem exists_of_mem_disputeNotes {claimed : List DevicePair} {note : Note}
    (isNote : note ∈ disputeNotes claimed) :
    ∃ client holder claimant, note = .disputedClient client holder claimant := by
  obtain ⟨pair, _, isDispute⟩ := List.mem_filterMap.1 isNote
  split at isDispute
  next holder isHolder =>
    split at isDispute
    · cases isDispute
    · exact ⟨pair.2, holder, pair.1, (Option.some.inj isDispute).symm⟩
  · cases isDispute

/-- Every session that is not answered is noted, and no other note tells of one. -/
theorem filter_notes (devices : Table String Device) :
    (notes devices).filter Note.isOneSidedSession =
      ((discover devices).keys.filter fun pair => decide (pair.swap ∉ (discover devices).keys)).map
        fun pair => .oneSidedSession pair.1 pair.2 := by
  have noDispute : ∀ claimed, (disputeNotes claimed).filter Note.isOneSidedSession = [] := by
    intro claimed
    rw [List.filter_eq_nil_iff]
    intro note isNote
    obtain ⟨_, _, _, rfl⟩ := exists_of_mem_disputeNotes isNote
    exact Bool.false_ne_true
  have allOneSided : (oneSidedNotes (discover devices)).filter Note.isOneSidedSession =
      oneSidedNotes (discover devices) := by
    rw [List.filter_eq_self]
    intro note isNote
    obtain ⟨_, _, rfl⟩ := exists_of_mem_oneSidedNotes isNote
    rfl
  have unanswered : oneSidedNotes (discover devices) =
      ((discover devices).keys.filter fun pair => decide (pair.swap ∉ (discover devices).keys)).map
        fun pair => .oneSidedSession pair.1 pair.2 := by
    rw [oneSidedNotes]
    congr 1
    apply List.filter_congr
    intro pair _
    have same : (discover devices).contains (pair.2, pair.1) = true ↔
        pair.swap ∈ (discover devices).keys := Table.contains_iff_mem_keys
    by_cases isAnswered : pair.swap ∈ (discover devices).keys
    · simp [isAnswered, same.2 isAnswered]
    · simp [isAnswered, Bool.eq_false_iff.2 (mt same.1 isAnswered)]
  rw [notes, List.filter_append, List.filter_append, allOneSided, noDispute, unanswered]
  simp [Note.isOneSidedSession]

/-! ## Each session once -/

/-- The sessions between some pairs of devices, and no others, are resolved: each has
its edge, under the device that opens it, and its first statement. If both devices
open one, the edges are opposite to each other; if one does, its edge dangles and this
is noted. -/
structure Resolves (devices : Table String Device) (options : Options)
    (pairs : List DevicePair) (internal : InternalSessions) : Prop where
  entered : internal.sessions.entries.map Prod.fst = pairs.map (sessionEdge devices options)
  listed : ∀ router, (internal.edges.get? router).getD [] =
    (pairs.filter fun pair => decide (pair.1 = router)).map (sessionEdge devices options)
  opened : ∀ pair ∈ pairs, ∃ neighbor,
    openingStatement? devices pair.1 pair.2 = some neighbor ∧
      internal.sessions.get? (sessionEdge devices options pair).key = some neighbor
  answered : ∀ pair ∈ pairs, pair.swap ∈ pairs →
    (sessionEdge devices options pair).peer = some pair.2 ∧
      internal.reverse.get? (sessionEdge devices options pair).key =
        some (sessionEdge devices options pair.swap)
  dangling : ∀ pair ∈ pairs, pair.swap ∉ pairs →
    (sessionEdge devices options pair).peer = none ∧
      (sessionEdge devices options pair).far = none ∧
        internal.reverse.get? (sessionEdge devices options pair).key = none
  noted : (notes devices).filter Note.isOneSidedSession =
    (pairs.filter fun pair => decide (pair.swap ∉ pairs)).map fun pair =>
      .oneSidedSession pair.1 pair.2

/-- The sessions of all devices are resolved, each of them once and over an edge of its
own, whatever the devices, their statements and the settings are. -/
theorem resolves_each_session_once (devices : Table String Device) (options : Options) :
    ∃ internal pairs, resolve devices options = .ok internal ∧ pairs.Nodup ∧
      (∀ pair, pair ∈ pairs ↔ HasSession devices pair) ∧
      (Function.Injective fun pair => (sessionEdge devices options pair).key) ∧
      Resolves devices options pairs internal := by
  obtain ⟨internal, succeeded⟩ := exists_resolve devices options
  have isPair : ∀ pair, pair ∈ (discover devices).keys ↔ HasSession devices pair :=
    fun _ => mem_keys_discover_iff
  refine ⟨internal, (discover devices).keys, succeeded, (discover devices).keysNodup, isPair,
    key_sessionEdge_injective devices options, ?_⟩
  constructor
  case entered =>
    rw [entries_sessions succeeded, Table.keys, List.map_map, List.map_map]
    rfl
  case listed => exact getD_edges succeeded
  case opened =>
    intro pair isKey
    obtain ⟨neighbor, isFirst⟩ := hasSession_iff.1 ((isPair pair).1 isKey)
    exact ⟨neighbor, isFirst, get?_sessions succeeded isFirst⟩
  case answered =>
    intro pair isKey isAnswered
    have answers : HasSession devices pair.swap := (isPair pair.swap).1 isAnswered
    obtain ⟨answer, isFirst⟩ := hasSession_iff.1 answers
    refine ⟨?_, (get?_reverse_iff succeeded).2 ⟨(isPair pair).1 isKey, answers, rfl⟩⟩
    simp only [sessionEdge]
    rw [Prod.fst_swap, Prod.snd_swap] at isFirst
    rw [isFirst, Option.map_some]
  case dangling =>
    intro pair isKey notAnswered
    have noAnswer : openingStatement? devices pair.2 pair.1 = none := by
      rw [Option.eq_none_iff_forall_ne_some]
      intro answer isFirst
      exact notAnswered ((isPair pair.swap).2 (hasSession_iff.2 ⟨answer, isFirst⟩))
    refine ⟨?_, ?_, ?_⟩
    · simp [sessionEdge, noAnswer]
    · simp [sessionEdge, noAnswer]
    · rw [Option.eq_none_iff_forall_ne_some]
      intro opposite isOpposite
      obtain ⟨_, answers, _⟩ := (get?_reverse_iff succeeded).1 isOpposite
      exact notAnswered ((isPair pair.swap).2 answers)
  case noted => exact filter_notes devices

end InternalSessions

end RoutingPlane
