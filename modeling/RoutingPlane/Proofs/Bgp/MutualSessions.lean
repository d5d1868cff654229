import RoutingPlane.Proofs.Bgp.Resolution

/-!
Sessions that two devices open to each other. A device finds another one by the first
local address that the other one uses for its internal sessions, and by nothing else: so
the statements of the two ends may belong to different autonomous systems, and a session
between other local addresses is found only if the first ones are matched, too.
-/

namespace RoutingPlane.InternalSessions

variable {devices : Table String Device} {options : Options} {internal : InternalSessions}
  {pair : DevicePair} {neighbor answer : BgpNeighbor}

/-- An internal statement of the first device has the local address of the second one among
its peers. -/
def Matches (devices : Table String Device) (pair : DevicePair) (neighbor : BgpNeighbor) : Prop :=
  ∃ device address, devices.get? pair.1 = some device ∧ neighbor ∈ internalNeighbors device ∧
    (devices.get? pair.2).bind localAddress? = some address ∧
      neighbor.peers.contains address = true

theorem matches_of_openingStatement?
    (isFirst : openingStatement? devices pair.1 pair.2 = some neighbor) :
    pair.1 ≠ pair.2 ∧ Matches devices pair neighbor := by
  unfold openingStatement? at isFirst
  split at isFirst
  · cases isFirst
  next apart =>
    split at isFirst
    next device address isDevice isLocal =>
      have holds := List.find?_some isFirst
      exact ⟨apart, device, address, isDevice, List.mem_of_find?_eq_some isFirst, isLocal, holds⟩
    · cases isFirst

theorem hasSession_iff_matches :
    HasSession devices pair ↔ pair.1 ≠ pair.2 ∧ ∃ neighbor, Matches devices pair neighbor := by
  constructor
  · intro opens
    obtain ⟨neighbor, isFirst⟩ := hasSession_iff.1 opens
    obtain ⟨apart, isMatch⟩ := matches_of_openingStatement? isFirst
    exact ⟨apart, neighbor, isMatch⟩
  · rintro ⟨apart, neighbor, device, address, isDevice, isStatement, isLocal, holds⟩
    obtain ⟨remote, isRemote, isLocal⟩ := Option.bind_eq_some_iff.1 isLocal
    exact ⟨apart, device, remote, address, isDevice, isRemote, isLocal, neighbor, isStatement,
      Network.version_eq_of_contains holds, holds⟩

/-! ## Two devices and their edges -/

/-- The sessions that two devices open to each other run over edges that are opposite to
one another. -/
structure Paired (devices : Table String Device) (options : Options) (pair : DevicePair)
    (internal : InternalSessions) : Prop where
  opens : pair ∈ (discover devices).keys
  answers : pair.swap ∈ (discover devices).keys
  reverse : internal.reverse.get? (sessionEdge devices options pair).key =
    some (sessionEdge devices options pair.swap)
  reverseBack : internal.reverse.get? (sessionEdge devices options pair.swap).key =
    some (sessionEdge devices options pair)

theorem paired_iff (succeeded : resolve devices options = .ok internal) :
    Paired devices options pair internal ↔
      HasSession devices pair ∧ HasSession devices pair.swap := by
  constructor
  · intro paired
    exact ⟨mem_keys_discover_iff.1 paired.opens, mem_keys_discover_iff.1 paired.answers⟩
  · rintro ⟨opens, answers⟩
    exact ⟨mem_keys_discover_iff.2 opens, mem_keys_discover_iff.2 answers,
      (get?_reverse_iff succeeded).2 ⟨opens, answers, rfl⟩,
      (get?_reverse_iff succeeded).2 ⟨answers, opens, rfl⟩⟩

/-! ## The autonomous systems of the two ends -/

theorem exists_system_of_mem_internalNeighbors {device : Device}
    (isStatement : neighbor ∈ internalNeighbors device) :
    ∃ system, neighbor.localAs = some system ∧ neighbor.remoteAs = some system := by
  have isInternal : neighbor.isInternal = true := by
    unfold internalNeighbors at isStatement
    split at isStatement
    · exact (List.mem_filter.1 isStatement).2
    · cases isStatement
  rw [BgpNeighbor.isInternal, Bool.and_eq_true, decide_eq_true_eq] at isInternal
  obtain ⟨system, isLocal⟩ := Option.isSome_iff_exists.1 isInternal.1
  exact ⟨system, isLocal, isInternal.2 ▸ isLocal⟩

theorem Matches.exists_system (isMatch : Matches devices pair neighbor) :
    ∃ system, neighbor.localAs = some system ∧ neighbor.remoteAs = some system := by
  obtain ⟨_, _, _, isStatement, _⟩ := isMatch
  exact exists_system_of_mem_internalNeighbors isStatement

/-- The first of the internal statements of a device that have the local address of another one
among their peers is one for an autonomous system. -/
def FirstMatchIn (devices : Table String Device) (pair : DevicePair) (system : Int) : Prop :=
  ∃ device address statement, devices.get? pair.1 = some device ∧
    (devices.get? pair.2).bind localAddress? = some address ∧
      IsFirst (fun statement => statement.peers.contains address = true) (internalNeighbors device)
        statement ∧ statement.localAs = some system

/-- The statement that opens a session decides for which system the first match is. -/
theorem firstMatchIn_iff (isFirst : openingStatement? devices pair.1 pair.2 = some neighbor)
    {system : Int} : FirstMatchIn devices pair system ↔ neighbor.localAs = some system := by
  unfold openingStatement? at isFirst
  split at isFirst
  · cases isFirst
  split at isFirst
  next device address isDevice isLocal =>
    have tests : ∀ statement ∈ internalNeighbors device,
        statement.peers.contains address = true ↔ statement.peers.contains address = true :=
      fun _ _ => Iff.rfl
    constructor
    · rintro ⟨other, remote, statement, isOther, isRemote, isFirstMatch, isSystem⟩
      rw [isDevice, Option.some.injEq] at isOther
      rw [isLocal, Option.some.injEq] at isRemote
      subst isOther isRemote
      rw [← find?_eq_some_iff_isFirst tests, isFirst, Option.some.injEq] at isFirstMatch
      rw [isFirstMatch, isSystem]
    · intro isSystem
      have isFirstMatch := (find?_eq_some_iff_isFirst tests).1 isFirst
      exact ⟨device, address, neighbor, isDevice, isLocal, isFirstMatch, isSystem⟩
  · cases isFirst

/-- Two devices that open sessions to each other are in the same autonomous system exactly if
each of their statements names the system of the other one, and exactly if the first internal
statements in which the devices accept each other's local address are for one system. -/
theorem sameSystem_iff (options : Options)
    (opens : (discover devices).get? pair = some neighbor)
    (answers : (discover devices).get? pair.swap = some answer) :
    (∃ internal, resolve devices options = .ok internal ∧ Paired devices options pair internal ∧
      internal.sessions.get? (sessionEdge devices options pair).key = some neighbor ∧
        internal.sessions.get? (sessionEdge devices options pair.swap).key = some answer) ∧
      (∃ system, neighbor.localAs = some system ∧ neighbor.remoteAs = some system) ∧
      (∃ system, answer.localAs = some system ∧ answer.remoteAs = some system) ∧
      (neighbor.localAs = answer.localAs ↔
        neighbor.remoteAs = answer.localAs ∧ answer.remoteAs = neighbor.localAs) ∧
      ((∀ here there, Matches devices pair here → Matches devices pair.swap there →
        here.localAs = there.localAs) → neighbor.localAs = answer.localAs) ∧
      (neighbor.localAs = answer.localAs ↔
        ∃ system, FirstMatchIn devices pair system ∧ FirstMatchIn devices pair.swap system) := by
  have isFirst : openingStatement? devices pair.1 pair.2 = some neighbor :=
    (get?_discover devices pair.1 pair.2).symm.trans opens
  have answersFirst : openingStatement? devices pair.swap.1 pair.swap.2 = some answer :=
    (get?_discover devices pair.2 pair.1).symm.trans answers
  obtain ⟨_, isMatch⟩ := matches_of_openingStatement? isFirst
  obtain ⟨_, isAnswer⟩ := matches_of_openingStatement? answersFirst
  obtain ⟨system, isLocal, isRemote⟩ := isMatch.exists_system
  obtain ⟨other, answerLocal, answerRemote⟩ := isAnswer.exists_system
  obtain ⟨internal, succeeded⟩ := exists_resolve devices options
  have paired : Paired devices options pair internal :=
    (paired_iff succeeded).2 ⟨hasSession_iff.2 ⟨neighbor, isFirst⟩,
      hasSession_iff.2 ⟨answer, answersFirst⟩⟩
  refine ⟨⟨internal, succeeded, paired, get?_sessions succeeded isFirst,
    get?_sessions succeeded answersFirst⟩, ⟨system, isLocal, isRemote⟩,
    ⟨other, answerLocal, answerRemote⟩, ?_, ?_, ?_⟩
  · rw [isLocal, isRemote, answerLocal, answerRemote]
    constructor
    · intro same
      exact ⟨same, same.symm⟩
    · intro agree
      exact agree.1
  · intro alike
    exact alike neighbor answer isMatch isAnswer
  · simp only [firstMatchIn_iff isFirst, firstMatchIn_iff answersFirst]
    constructor
    · intro same
      exact ⟨system, isLocal, same ▸ isLocal⟩
    · rintro ⟨shared, isHere, isThere⟩
      rw [isHere, isThere]

def internalStatement (system : Int) (near : BitVec 32) (peers : Network)
    (claims : Bool := false) : BgpNeighbor where
  peers := peers
  localAs := some system
  remoteAs := some system
  localAddress := some (.v4 near)
  reflectorClient := claims

def hostNetwork (bits : BitVec 32) : Network :=
  Network.containing (.v4 bits) 32 (Nat.le_refl 32)

def speaker (name : String) (statements : List BgpNeighbor) : Device where
  name := name
  bgp := some (.ofNeighbors none statements)

/-- Two devices of one autonomous system, the second of which accepts all peers of a
segment. The first one has a statement for another system, too. -/
def acceptingSpeaker : Table String Device :=
  Table.ofList
    [("a", speaker "a" [internalStatement 65001 0x0A000001 (hostNetwork 0x0A000009),
      internalStatement 65000 0x0A000001 (hostNetwork 0x0A000002)]),
    ("b", speaker "b" [internalStatement 65000 0x0A000002
      (Network.containing (.v4 0x0A000000) 24 (by decide))])]

theorem sameSystem_iff_acceptingSpeaker :
    ∃ neighbor answer, (discover acceptingSpeaker).get? ("a", "b") = some neighbor ∧
      (discover acceptingSpeaker).get? ("b", "a") = some answer ∧
      neighbor.localAs = answer.localAs ∧ (neighbor.remoteAs = answer.localAs ∧
        answer.remoteAs = neighbor.localAs) ∧
          ∃ system, FirstMatchIn acceptingSpeaker ("a", "b") system ∧
            FirstMatchIn acceptingSpeaker ("b", "a") system := by
  have opens : (discover acceptingSpeaker).get? ("a", "b") =
      some (internalStatement 65000 0x0A000001 (hostNetwork 0x0A000002)) := rfl
  have answers : (discover acceptingSpeaker).get? ("b", "a") =
      some (internalStatement 65000 0x0A000002
        (Network.containing (.v4 0x0A000000) 24 (by decide))) := rfl
  obtain ⟨_, _, _, namesIff, _, firstsIff⟩ := sameSystem_iff {} opens answers
  exact ⟨_, _, opens, answers, rfl, namesIff.1 rfl, firstsIff.1 rfl⟩

/-- Two devices that open sessions to each other, each in an autonomous system of its own. -/
def twoSystems : Table String Device :=
  Table.ofList [("a", speaker "a" [internalStatement 65001 0x0A000001 (hostNetwork 0x0A000002)]),
    ("b", speaker "b" [internalStatement 65002 0x0A000002 (hostNetwork 0x0A000001)])]

/-- The sessions of two systems can be paired, since only addresses are compared. -/
theorem exists_paired_between_systems :
    ∃ internal neighbor answer, resolve twoSystems {} = .ok internal ∧
      (discover twoSystems).get? ("a", "b") = some neighbor ∧
      (discover twoSystems).get? ("b", "a") = some answer ∧
      Paired twoSystems {} ("a", "b") internal ∧ neighbor.localAs ≠ answer.localAs := by
  have bothOpen : (discover twoSystems).keys = [("a", "b"), ("b", "a")] := by decide +kernel
  obtain ⟨internal, succeeded⟩ := exists_resolve twoSystems {}
  have opens : HasSession twoSystems ("a", "b") :=
    mem_keys_discover_iff.1 (by rw [bothOpen]; decide)
  have answers : HasSession twoSystems ("b", "a") :=
    mem_keys_discover_iff.1 (by rw [bothOpen]; decide)
  exact ⟨internal, _, _, succeeded, rfl, rfl, (paired_iff succeeded).2 ⟨opens, answers⟩,
    by decide⟩

/-! ## Statements that point at each other -/

/-- Internal statements of two devices point at each other: the local address of each of them
is among the peers of the other one. -/
structure PointAtEachOther (devices : Table String Device) (pair : DevicePair)
    (neighbor answer : BgpNeighbor) : Prop where
  apart : pair.1 ≠ pair.2
  isStatement : ∃ device, devices.get? pair.1 = some device ∧ neighbor ∈ internalNeighbors device
  isAnswer : ∃ device, devices.get? pair.2 = some device ∧ answer ∈ internalNeighbors device
  near : ∃ address, neighbor.localAddress = some address ∧ answer.peers.contains address = true
  far : ∃ address, answer.localAddress = some address ∧ neighbor.peers.contains address = true

theorem PointAtEachOther.symm (pointing : PointAtEachOther devices pair neighbor answer) :
    PointAtEachOther devices pair.swap answer neighbor where
  apart := pointing.apart.symm
  isStatement := pointing.isAnswer
  isAnswer := pointing.isStatement
  near := pointing.far
  far := pointing.near

/-- A device that has a local address in one of its internal statements has a first one. -/
theorem PointAtEachOther.exists_localAddress
    (pointing : PointAtEachOther devices pair neighbor answer) :
    ∃ address, (devices.get? pair.1).bind localAddress? = some address := by
  obtain ⟨device, isDevice, isStatement⟩ := pointing.isStatement
  obtain ⟨address, isLocal, _⟩ := pointing.near
  have hasAddress : (localAddress? device).isSome = true := by
    rw [localAddress?, List.findSome?_isSome_iff]
    exact ⟨neighbor, isStatement, by rw [isLocal]; rfl⟩
  rw [isDevice, Option.bind_some]
  exact Option.isSome_iff_exists.1 hasAddress

theorem PointAtEachOther.matches_of_first {far : Address}
    (pointing : PointAtEachOther devices pair neighbor answer)
    (isFirst : (devices.get? pair.2).bind localAddress? = some far)
    (usesFirst : answer.localAddress = some far) : Matches devices pair neighbor := by
  obtain ⟨device, isDevice, isStatement⟩ := pointing.isStatement
  obtain ⟨address, isLocal, holds⟩ := pointing.far
  have sameAddress : far = address := Option.some.inj (usesFirst.symm.trans isLocal)
  exact ⟨device, far, isDevice, isStatement, isFirst, sameAddress ▸ holds⟩

/-- Statements that point at each other are found in both directions exactly if each device has an
internal statement for the first local address of the other one. The addresses that they point at
need not be these. If they are, the condition holds. -/
theorem paired_iff_of_pointAtEachOther (options : Options)
    (pointing : PointAtEachOther devices pair neighbor answer) :
    ∃ internal near far, resolve devices options = .ok internal ∧
      (devices.get? pair.1).bind localAddress? = some near ∧
      (devices.get? pair.2).bind localAddress? = some far ∧
      (Paired devices options pair internal ↔
        (∃ here, Matches devices pair here) ∧ ∃ there, Matches devices pair.swap there) ∧
      (neighbor.localAddress = some near → answer.localAddress = some far →
        Paired devices options pair internal) := by
  obtain ⟨internal, succeeded⟩ := exists_resolve devices options
  obtain ⟨near, nearFirst⟩ := pointing.exists_localAddress
  obtain ⟨far, farFirst⟩ := pointing.symm.exists_localAddress
  have pairedIff : Paired devices options pair internal ↔
      (∃ here, Matches devices pair here) ∧ ∃ there, Matches devices pair.swap there := by
    rw [paired_iff succeeded, hasSession_iff_matches, hasSession_iff_matches,
      and_iff_right pointing.apart, and_iff_right pointing.symm.apart]
  refine ⟨internal, near, far, succeeded, nearFirst, farFirst, pairedIff, ?_⟩
  intro usesNear usesFar
  exact pairedIff.2 ⟨⟨neighbor, pointing.matches_of_first farFirst usesFar⟩,
    ⟨answer, pointing.symm.matches_of_first nearFirst usesNear⟩⟩

theorem paired_iff_of_pointAtEachOther_acceptingSpeaker :
    ∃ internal neighbor answer, resolve acceptingSpeaker {} = .ok internal ∧
      PointAtEachOther acceptingSpeaker ("a", "b") neighbor answer ∧
      Paired acceptingSpeaker {} ("a", "b") internal ∧
      (∃ here, Matches acceptingSpeaker ("a", "b") here) ∧
        ∃ there, Matches acceptingSpeaker ("b", "a") there := by
  have pointing : PointAtEachOther acceptingSpeaker ("a", "b")
      (internalStatement 65000 0x0A000001 (hostNetwork 0x0A000002))
      (internalStatement 65000 0x0A000002
        (Network.containing (.v4 0x0A000000) 24 (by decide))) :=
    { apart := by decide
      isStatement := ⟨_, rfl, List.mem_of_getElem? (i := 1) rfl⟩
      isAnswer := ⟨_, rfl, List.mem_of_getElem? (i := 0) rfl⟩
      near := ⟨_, rfl, by decide⟩
      far := ⟨_, rfl, by decide⟩ }
  obtain ⟨internal, near, far, succeeded, nearFirst, farFirst, pairedIff, isPaired⟩ :=
    paired_iff_of_pointAtEachOther {} pointing
  have paired := isPaired nearFirst farFirst
  exact ⟨internal, _, _, succeeded, pointing, paired, pairedIff.1 paired⟩

/-- A device that uses another local address for an earlier internal session than for the one
with its peer. -/
def secondAddress : Table String Device :=
  Table.ofList
    [("a", speaker "a" [internalStatement 65000 0x0A000101 (hostNetwork 0x0A000009),
      internalStatement 65000 0x0A000001 (hostNetwork 0x0A000002)]),
    ("b", speaker "b" [internalStatement 65000 0x0A000002 (hostNetwork 0x0A000001)])]

/-- The session is lost in one direction, and it is noted that it is not configured there. -/
theorem not_paired_secondAddress :
    ∃ internal neighbor answer, resolve secondAddress {} = .ok internal ∧
      PointAtEachOther secondAddress ("a", "b") neighbor answer ∧
      ¬ Paired secondAddress {} ("a", "b") internal ∧
      .oneSidedSession "a" "b" ∈ notes secondAddress := by
  have onlyFirstOpens : (discover secondAddress).keys = [("a", "b")] := by decide +kernel
  have pointing : PointAtEachOther secondAddress ("a", "b")
      (internalStatement 65000 0x0A000001 (hostNetwork 0x0A000002))
      (internalStatement 65000 0x0A000002 (hostNetwork 0x0A000001)) :=
    { apart := by decide
      isStatement := ⟨_, rfl, List.mem_of_getElem? (i := 1) rfl⟩
      isAnswer := ⟨_, rfl, List.mem_of_getElem? (i := 0) rfl⟩
      near := ⟨_, rfl, by decide⟩
      far := ⟨_, rfl, by decide⟩ }
  obtain ⟨internal, succeeded⟩ := exists_resolve secondAddress {}
  refine ⟨internal, _, _, succeeded, pointing, ?_, List.mem_of_getElem? (i := 0) rfl⟩
  intro paired
  have answers := paired.answers
  rw [onlyFirstOpens] at answers
  simp at answers

end RoutingPlane.InternalSessions
