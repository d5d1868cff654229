import RoutingPlane.Proofs.Bgp.Resolution

/-!
The reflectors of sessions inside autonomous systems. The sessions are gone through in
the order in which they are discovered. The first one whose statement claims its remote
device as a client decides who the reflector of that device is; every later claim to it
is dropped and noted. So the table of reflectors and the one of clients tell the same
relation, whatever the devices claim.
-/

namespace RoutingPlane

/-- Whether a note tells of a claim to a client that another reflector holds. -/
def Note.isDispute : Note → Bool
  | .disputedClient _ _ _ => true
  | _ => false

namespace InternalSessions

variable {devices : Table String Device} {options : Options} {internal : InternalSessions}
  {claimed : List DevicePair} {pair : DevicePair} {client reflector : String}

/-! ## The first claim to a client -/

theorem get?_reflectors (claimed : List DevicePair) (client : String) :
    (reflectors claimed).get? client = Table.find? client (claimed.map Prod.swap) := by
  have asEntries : reflectors claimed = (claimed.map Prod.swap).foldl
      (fun table entry => putFirst table entry.1 entry.2) Table.empty := by
    rw [List.foldl_map]
    rfl
  rw [asEntries, get?_foldl_putFirst, Table.get?_empty, Option.none_or]

theorem get?_reflectors_append (front back : List DevicePair) (client : String) :
    (reflectors (front ++ back)).get? client =
      ((reflectors front).get? client).or ((reflectors back).get? client) := by
  simp only [get?_reflectors, List.map_append, Table.find?_append]

theorem mem_claimed_of_get?_reflectors
    (isReflector : (reflectors claimed).get? client = some reflector) :
    (reflector, client) ∈ claimed := by
  rw [get?_reflectors] at isReflector
  have isSwapped := Table.mem_of_find? isReflector
  obtain ⟨pair, isClaim, same⟩ := List.mem_map.1 isSwapped
  rw [← Prod.swap_swap pair, same] at isClaim
  exact isClaim

theorem get?_reflectors_eq_none_iff :
    (reflectors claimed).get? client = none ↔ client ∉ claimed.map Prod.snd := by
  rw [get?_reflectors, Table.find?_eq_none_iff, List.map_map]
  rfl

/-- A client that is claimed keeps its reflector, whatever is claimed later. -/
theorem get?_reflectors_append_of_mem {later : List DevicePair} (isClaim : pair ∈ claimed) :
    (reflectors (claimed ++ later)).get? pair.2 = (reflectors claimed).get? pair.2 := by
  have isClaimed : pair.2 ∈ claimed.map Prod.snd := List.mem_map.2 ⟨pair, isClaim, rfl⟩
  rw [get?_reflectors_append]
  cases holder : (reflectors claimed).get? pair.2 with
  | none => exact absurd isClaimed (get?_reflectors_eq_none_iff.1 holder)
  | some first => rfl

/-- A device holds a client exactly if it is the reflector of the client. -/
theorem mem_clientsOf_iff :
    client ∈ clientsOf claimed reflector ↔
      (reflectors claimed).get? client = some reflector := by
  rw [clientsOf, List.mem_map]
  constructor
  · intro isListed
    obtain ⟨pair, isKept, rfl⟩ := isListed
    have holds := (List.mem_filter.1 isKept).2
    rw [Bool.and_eq_true, decide_eq_true_eq, decide_eq_true_eq] at holds
    exact holds.2
  · intro isReflector
    have isClaim := mem_claimed_of_get?_reflectors isReflector
    exact ⟨(reflector, client), List.mem_filter.2 ⟨isClaim, by simp [isReflector]⟩, rfl⟩

/-! ## Later claims -/

/-- A claim comes late if an earlier one is made to the same client. -/
def IsLate (claimed : List DevicePair) (pair : DevicePair) : Prop :=
  ∃ earlier later, claimed = earlier ++ pair :: later ∧ pair.2 ∈ earlier.map Prod.snd

theorem IsLate.mem (isLate : IsLate claimed pair) : pair ∈ claimed := by
  obtain ⟨earlier, later, rfl, _⟩ := isLate
  exact List.mem_append_right _ List.mem_cons_self

/-- A claim is late exactly if it does not decide the reflector. -/
theorem isLate_iff (nodup : claimed.Nodup) (isClaim : pair ∈ claimed) :
    IsLate claimed pair ↔ (reflectors claimed).get? pair.2 ≠ some pair.1 := by
  constructor
  · intro isLate
    obtain ⟨earlier, later, rfl, isHeld⟩ := isLate
    rw [get?_reflectors_append]
    cases holder : (reflectors earlier).get? pair.2 with
    | none => exact absurd isHeld (get?_reflectors_eq_none_iff.1 holder)
    | some first =>
        intro same
        have isFirst : first = pair.1 := Option.some.inj same
        have isEarlier : pair ∈ earlier := by
          rw [isFirst] at holder
          exact mem_claimed_of_get?_reflectors holder
        have apart := (List.nodup_append.1 nodup).2.2
        exact apart pair isEarlier pair List.mem_cons_self rfl
  · intro isOther
    obtain ⟨earlier, later, split⟩ := List.append_of_mem isClaim
    refine ⟨earlier, later, split, ?_⟩
    by_contra isFree
    have nobodyBefore := get?_reflectors_eq_none_iff.2 isFree
    have isFirst : (reflectors (pair :: later)).get? pair.2 = some pair.1 := by
      simp [get?_reflectors, Table.find?]
    rw [split, get?_reflectors_append, nobodyBefore, Option.none_or] at isOther
    exact isOther isFirst

/-! ## Sessions gone through one at a time -/

/-- What is settled about reflectors while the sessions are gone through. -/
structure Hierarchy where
  reflectorOf : Table String String := .empty
  clients : Table String (List String) := .empty
  disputes : List Note := []

/-- Goes through a session. Its opener is entered among the devices that hold clients. If
its statement claims the remote device, the opener becomes the reflector of that device,
unless another one is already: then the claim is noted and dropped. -/
def Hierarchy.pass (hierarchy : Hierarchy) (session : DevicePair × BgpNeighbor) : Hierarchy :=
  let opener := session.1.1
  let client := session.1.2
  let entered := putFirst hierarchy.clients opener []
  if session.2.reflectorClient then
    match (hierarchy.reflectorOf.get? client).filter fun holder => decide (holder ≠ opener) with
    | some holder =>
        { hierarchy with
          clients := entered
          disputes := hierarchy.disputes ++ [.disputedClient client holder opener] }
    | none =>
        { hierarchy with
          reflectorOf := hierarchy.reflectorOf.put client opener
          clients := entered.modify opener fun held =>
            if held.contains client then held else held ++ [client] }
  else { hierarchy with clients := entered }

def Hierarchy.settle (sessions : List (DevicePair × BgpNeighbor)) : Hierarchy :=
  sessions.foldl Hierarchy.pass {}

def claimsAmong (sessions : List (DevicePair × BgpNeighbor)) : List DevicePair :=
  (sessions.filter fun session => session.2.reflectorClient).map Prod.fst

def openersAmong (sessions : List (DevicePair × BgpNeighbor)) : List String :=
  (sessions.map fun session => session.1.1).eraseDups

def clientsAmong (sessions : List (DevicePair × BgpNeighbor)) : Table String (List String) :=
  Table.ofList ((openersAmong sessions).map fun opener =>
    (opener, clientsOf (claimsAmong sessions) opener))

/-- What the claims among some sessions settle, told without going through them. -/
def Hierarchy.ofSessions (sessions : List (DevicePair × BgpNeighbor)) : Hierarchy where
  reflectorOf := reflectors (claimsAmong sessions)
  clients := clientsAmong sessions
  disputes := disputeNotes (claimsAmong sessions)

variable {front sessions : List (DevicePair × BgpNeighbor)} {session : DevicePair × BgpNeighbor}

theorem mem_keys_of_mem_claimsAmong (isClaim : pair ∈ claimsAmong sessions) :
    pair ∈ sessions.map Prod.fst :=
  (List.filter_sublist.map Prod.fst).subset isClaim

theorem mem_openersAmong_of_get?_reflectors
    (isReflector : (reflectors (claimsAmong sessions)).get? client = some reflector) :
    reflector ∈ openersAmong sessions := by
  have isClaim := mem_claimed_of_get?_reflectors isReflector
  obtain ⟨session, isSession, samePair⟩ := List.mem_map.1 (mem_keys_of_mem_claimsAmong isClaim)
  rw [openersAmong, List.mem_eraseDups]
  exact List.mem_map.2 ⟨session, isSession, by rw [samePair]⟩

theorem entries_clientsAmong (sessions : List (DevicePair × BgpNeighbor)) :
    (clientsAmong sessions).entries = (openersAmong sessions).map fun opener =>
      (opener, clientsOf (claimsAmong sessions) opener) :=
  Table.entries_ofList_map (nodup_eraseDups _) _

theorem keys_clientsAmong (sessions : List (DevicePair × BgpNeighbor)) :
    (clientsAmong sessions).keys = openersAmong sessions := by
  rw [Table.keys, entries_clientsAmong, List.map_map]
  exact List.map_id _

/-! ### One more session -/

theorem claimsAmong_append_singleton (front : List (DevicePair × BgpNeighbor))
    (session : DevicePair × BgpNeighbor) :
    claimsAmong (front ++ [session]) =
      claimsAmong front ++ if session.2.reflectorClient then [session.1] else [] := by
  rw [claimsAmong, List.filter_append, List.map_append]
  cases claims : session.2.reflectorClient <;> simp [claimsAmong, claims]

theorem openersAmong_append_singleton (front : List (DevicePair × BgpNeighbor))
    (session : DevicePair × BgpNeighbor) :
    openersAmong (front ++ [session]) =
      openersAmong front ++ if session.1.1 ∈ openersAmong front then [] else [session.1.1] := by
  simp only [openersAmong, List.map_append, List.map_singleton, List.mem_eraseDups]
  split
  case isTrue isOpener => rw [eraseDups_append_of_mem isOpener, List.append_nil]
  case isFalse isNew => rw [eraseDups_append_of_not_mem isNew]

theorem reflectors_append_singleton (claimed : List DevicePair) (pair : DevicePair) :
    reflectors (claimed ++ [pair]) = putFirst (reflectors claimed) pair.2 pair.1 := by
  rw [reflectors, List.foldl_append]
  rfl

/-- One more claim gives its reflector one more client, unless another one holds it. -/
theorem clientsOf_append_singleton (claimed : List DevicePair) (pair : DevicePair)
    (reflector : String) :
    clientsOf (claimed ++ [pair]) reflector =
      clientsOf claimed reflector ++
        if pair.1 = reflector ∧ (reflectors (claimed ++ [pair])).get? pair.2 = some reflector
        then [pair.2] else [] := by
  have sameBefore : (claimed.filter fun other => decide (other.1 = reflector) &&
        decide ((reflectors (claimed ++ [pair])).get? other.2 = some reflector)) =
      claimed.filter fun other => decide (other.1 = reflector) &&
        decide ((reflectors claimed).get? other.2 = some reflector) := by
    apply List.filter_congr
    intro other isClaim
    rw [get?_reflectors_append_of_mem isClaim]
  rw [clientsOf, List.filter_append, sameBefore, List.map_append, clientsOf]
  split
  next holds => simp [holds]
  next holdsNot => simp [holdsNot]

theorem disputeNotes_append_singleton (claimed : List DevicePair) (pair : DevicePair) :
    disputeNotes (claimed ++ [pair]) =
      disputeNotes claimed ++
        match (reflectors (claimed ++ [pair])).get? pair.2 with
        | some holder => if holder = pair.1 then [] else [.disputedClient pair.2 holder pair.1]
        | none => [] := by
  rw [disputeNotes, List.filterMap_append, disputeNotes]
  congr 1
  · apply List.filterMap_congr
    intro other isClaim
    rw [get?_reflectors_append_of_mem isClaim]
  · cases isHeld : (reflectors (claimed ++ [pair])).get? pair.2 with
    | none => simp [isHeld]
    | some holder => by_cases same : holder = pair.1 <;> simp [isHeld, same]

theorem entries_putFirst_clientsAmong (front : List (DevicePair × BgpNeighbor))
    (session : DevicePair × BgpNeighbor) :
    (putFirst (clientsAmong front) session.1.1 []).entries =
      (openersAmong (front ++ [session])).map fun opener =>
        (opener, clientsOf (claimsAmong front) opener) := by
  have isEntered : (clientsAmong front).contains session.1.1 = true ↔
      session.1.1 ∈ openersAmong front := by
    rw [Table.contains_iff_mem_keys, keys_clientsAmong]
  rw [openersAmong_append_singleton, putFirst]
  by_cases isOpener : session.1.1 ∈ openersAmong front
  · rw [if_pos (isEntered.2 isOpener), if_pos isOpener, List.append_nil, entries_clientsAmong]
  · have holdsNone : clientsOf (claimsAmong front) session.1.1 = [] := by
      rw [List.eq_nil_iff_forall_not_mem]
      intro client isClient
      exact isOpener (mem_openersAmong_of_get?_reflectors (mem_clientsOf_iff.1 isClient))
    have isNew : session.1.1 ∉ (clientsAmong front).keys := by
      rw [keys_clientsAmong]
      exact isOpener
    rw [if_neg (mt isEntered.1 isOpener), if_neg isOpener, Table.entries_put_of_not_mem _ isNew,
      entries_clientsAmong, List.map_append, List.map_singleton, holdsNone]

theorem clientsAmong_eq_of_entries {table : Table String (List String)}
    (entriesAre : table.entries = (openersAmong sessions).map fun opener =>
      (opener, clientsOf (claimsAmong sessions) opener)) :
    clientsAmong sessions = table := by
  apply Table.ext_entries
  rw [entries_clientsAmong, entriesAre]

/-- A claim to a client of another reflector changes neither reflectors nor clients. -/
theorem Hierarchy.pass_of_held {holder : String} (claims : session.2.reflectorClient = true)
    (isHeld : (reflectors (claimsAmong front)).get? session.1.2 = some holder)
    (isOther : holder ≠ session.1.1) :
    (Hierarchy.ofSessions front).pass session = Hierarchy.ofSessions (front ++ [session]) := by
  have allClaims := claimsAmong_append_singleton front session
  rw [if_pos claims] at allClaims
  have sameReflectors :
      reflectors (claimsAmong front ++ [session.1]) = reflectors (claimsAmong front) := by
    rw [reflectors_append_singleton, putFirst, Table.contains, isHeld, Option.isSome_some,
      if_pos rfl]
  have sameClients : ∀ opener, clientsOf (claimsAmong front ++ [session.1]) opener =
      clientsOf (claimsAmong front) opener := by
    intro opener
    have notBoth : ¬(session.1.1 = opener ∧ some holder = some opener) := by
      intro both
      exact isOther ((Option.some.inj both.2).trans both.1.symm)
    rw [clientsOf_append_singleton, sameReflectors, isHeld, if_neg notBoth, List.append_nil]
  have entered : clientsAmong (front ++ [session]) =
      putFirst (clientsAmong front) session.1.1 [] := by
    apply clientsAmong_eq_of_entries
    simp only [entries_putFirst_clientsAmong, allClaims, sameClients]
  simp [pass, ofSessions, claims, isHeld, Option.filter_some, isOther, allClaims, entered,
    disputeNotes_append_singleton, sameReflectors]

/-- The first claim to a client makes the claimant its reflector. -/
theorem Hierarchy.pass_of_free (claims : session.2.reflectorClient = true)
    (isFree : (reflectors (claimsAmong front)).get? session.1.2 = none) :
    (Hierarchy.ofSessions front).pass session = Hierarchy.ofSessions (front ++ [session]) := by
  have allClaims := claimsAmong_append_singleton front session
  rw [if_pos claims] at allClaims
  have nowReflected : reflectors (claimsAmong front ++ [session.1]) =
      (reflectors (claimsAmong front)).put session.1.2 session.1.1 := by
    rw [reflectors_append_singleton, putFirst, Table.contains, isFree, Option.isSome_none,
      if_neg Bool.false_ne_true]
  have notYetClient : session.1.2 ∉ clientsOf (claimsAmong front) session.1.1 := by
    rw [mem_clientsOf_iff, isFree]
    intro isReflector
    cases isReflector
  have nowClients : ∀ opener, clientsOf (claimsAmong front ++ [session.1]) opener =
      if opener = session.1.1 then clientsOf (claimsAmong front) opener ++ [session.1.2]
      else clientsOf (claimsAmong front) opener := by
    intro opener
    rw [clientsOf_append_singleton, nowReflected, Table.get?_put_self]
    by_cases same : opener = session.1.1
    · simp [same]
    · simp [same, Ne.symm same]
  have entered : clientsAmong (front ++ [session]) =
      (putFirst (clientsAmong front) session.1.1 []).modify session.1.1 fun held =>
        if held.contains session.1.2 then held else held ++ [session.1.2] := by
    apply clientsAmong_eq_of_entries
    simp only [Table.modify, Table.mapValues, entries_putFirst_clientsAmong, List.map_map,
      allClaims, nowClients]
    apply List.map_congr_left
    intro opener _
    by_cases same : opener = session.1.1
    · simp [same, notYetClient]
    · simp [same]
  simp [pass, ofSessions, claims, isFree, allClaims, entered, disputeNotes_append_singleton,
    nowReflected]

/-- One more session is gone through as all of them are settled. Two devices have one session, so
its opener has not claimed the client before. -/
theorem Hierarchy.pass_ofSessions (isNew : session.1 ∉ front.map Prod.fst) :
    (Hierarchy.ofSessions front).pass session = Hierarchy.ofSessions (front ++ [session]) := by
  cases claims : session.2.reflectorClient with
  | false =>
      have sameClaims := claimsAmong_append_singleton front session
      rw [claims, if_neg Bool.false_ne_true, List.append_nil] at sameClaims
      have entered : clientsAmong (front ++ [session]) =
          putFirst (clientsAmong front) session.1.1 [] := by
        apply clientsAmong_eq_of_entries
        rw [entries_putFirst_clientsAmong, sameClaims]
      simp [pass, ofSessions, claims, sameClaims, entered]
  | true =>
      cases isHeld : (reflectors (claimsAmong front)).get? session.1.2 with
      | none => exact pass_of_free claims isHeld
      | some holder =>
          have isOther : holder ≠ session.1.1 := by
            intro same
            rw [same] at isHeld
            have isClaim := mem_claimed_of_get?_reflectors isHeld
            exact isNew (mem_keys_of_mem_claimsAmong isClaim)
          exact pass_of_held claims isHeld isOther

/-- Going through sessions one at a time settles what their claims settle. -/
theorem Hierarchy.settle_eq (distinct : (sessions.map Prod.fst).Nodup) :
    Hierarchy.settle sessions = Hierarchy.ofSessions sessions := by
  induction sessions using List.reverseRecOn with
  | nil =>
      rfl
  | append_singleton front session inductionHypothesis =>
      rw [List.map_append, List.nodup_append] at distinct
      obtain ⟨frontDistinct, _, apart⟩ := distinct
      have isNew : session.1 ∉ front.map Prod.fst := by
        intro isOld
        exact apart _ isOld _ (List.mem_singleton_self _) rfl
      have lastPassed : settle (front ++ [session]) = (settle front).pass session :=
        List.foldl_append
      rw [lastPassed, inductionHypothesis frontDistinct, pass_ofSessions isNew]

/-! ## The reflectors of all devices -/

/-- The reflector of a client opens the first session in which the client is claimed. -/
theorem get?_reflectors_claimsAmong (sessions : List (DevicePair × BgpNeighbor)) (client : String) :
    (reflectors (claimsAmong sessions)).get? client =
      (sessions.find? fun session =>
        decide (session.1.2 = client) && session.2.reflectorClient).map fun session =>
          session.1.1 := by
  rw [get?_reflectors]
  induction sessions with
  | nil =>
      rfl
  | cons session rest inductionHypothesis =>
      cases claims : session.2.reflectorClient with
      | false =>
          have sameClaims : claimsAmong (session :: rest) = claimsAmong rest := by
            simp [claimsAmong, claims]
          rw [sameClaims, inductionHypothesis]
          simp [claims]
      | true =>
          have allClaims : claimsAmong (session :: rest) = session.1 :: claimsAmong rest := by
            simp [claimsAmong, claims]
          rw [allClaims, List.map_cons]
          by_cases same : session.1.2 = client
          · simp [Table.find?, same, claims]
          · simp [Table.find?, same, inductionHypothesis]

theorem reflectorOf_eq (succeeded : resolve devices options = .ok internal) :
    internal.reflectorOf = reflectors (claimsAmong (discover devices).entries) := by
  obtain ⟨rows, _, succeeded⟩ := bind_eq_ok_iff.1 succeeded
  rw [← pure_eq_ok_iff.1 succeeded]
  rfl

theorem clients_eq (succeeded : resolve devices options = .ok internal) :
    internal.clients = clientsAmong (discover devices).entries := by
  obtain ⟨rows, _, succeeded⟩ := bind_eq_ok_iff.1 succeeded
  have sameOpeners : openers (discover devices) = openersAmong (discover devices).entries := by
    rw [openers, Table.keys, List.map_map]
    rfl
  rw [← pure_eq_ok_iff.1 succeeded, sameOpeners]
  rfl

/-- The two tables of the hierarchy agree: clients are held by their reflectors. -/
theorem mem_clients_iff (succeeded : resolve devices options = .ok internal) :
    client ∈ (internal.clients.get? reflector).getD [] ↔
      internal.reflectorOf.get? client = some reflector := by
  have openersNodup : (openersAmong (discover devices).entries).Nodup := nodup_eraseDups _
  rw [clients_eq succeeded, reflectorOf_eq succeeded, clientsAmong,
    Table.get?_ofList_map openersNodup, ← mem_clientsOf_iff]
  split
  · rw [Option.getD_some]
  next opensNone =>
    have holdsNone : client ∉ clientsOf (claimsAmong (discover devices).entries) reflector := by
      intro isClient
      exact opensNone (mem_openersAmong_of_get?_reflectors (mem_clientsOf_iff.1 isClient))
    simp [holdsNone]

theorem contains_clients_iff (succeeded : resolve devices options = .ok internal)
    (device : String) :
    internal.clients.contains device = true ↔ ∃ remote, HasSession devices (device, remote) := by
  simp only [← mem_keys_discover_iff]
  rw [clients_eq succeeded, Table.contains_iff_mem_keys, keys_clientsAmong, openersAmong,
    List.mem_eraseDups]
  simp [Table.keys]

theorem filter_isDispute_notes (devices : Table String Device) :
    (notes devices).filter Note.isDispute = disputeNotes (claimedPairs (discover devices)) := by
  have noneOneSided : (oneSidedNotes (discover devices)).filter Note.isDispute = [] := by
    rw [List.filter_eq_nil_iff]
    intro note isNote
    obtain ⟨_, _, rfl⟩ := exists_of_mem_oneSidedNotes isNote
    exact Bool.false_ne_true
  have allDisputes : (disputeNotes (claimedPairs (discover devices))).filter Note.isDispute =
      disputeNotes (claimedPairs (discover devices)) := by
    rw [List.filter_eq_self]
    intro note isNote
    obtain ⟨_, _, _, rfl⟩ := exists_of_mem_disputeNotes isNote
    rfl
  rw [notes, List.filter_append, List.filter_append, noneOneSided, allDisputes]
  simp [Note.isDispute]

/-- A claim is dropped with a warning, because another device is the reflector. -/
structure Drops (internal : InternalSessions) (claim : DevicePair) (note : Note) : Prop where
  notReflector : internal.reflectorOf.get? claim.2 ≠ some claim.1
  notClient : claim.2 ∉ (internal.clients.get? claim.1).getD []
  noted : ∃ holder, internal.reflectorOf.get? claim.2 = some holder ∧
    note = .disputedClient claim.2 holder claim.1
  warns : note.level = .warning

/-- Each late claim is dropped with one note, in the order of the claims. -/
theorem exists_dropped (succeeded : resolve devices options = .ok internal) :
    ∃ late, late.Sublist (claimedPairs (discover devices)) ∧
      (∀ claim, claim ∈ late ↔ IsLate (claimedPairs (discover devices)) claim) ∧
        List.Forall₂ (Drops internal) late ((notes devices).filter Note.isDispute) := by
  have reflectorsAre : internal.reflectorOf = reflectors (claimedPairs (discover devices)) :=
    reflectorOf_eq succeeded
  have nodup : (claimedPairs (discover devices)).Nodup :=
    (discover devices).keysNodup.sublist (List.filter_sublist.map Prod.fst)
  refine ⟨(claimedPairs (discover devices)).filter fun claim =>
    decide (internal.reflectorOf.get? claim.2 ≠ some claim.1), List.filter_sublist, ?_, ?_⟩
  · intro claim
    rw [List.mem_filter, decide_eq_true_eq, reflectorsAre]
    constructor
    · intro isDropped
      exact (isLate_iff nodup isDropped.1).2 isDropped.2
    · intro isLate
      have isClaim := isLate.mem
      exact ⟨isClaim, (isLate_iff nodup isClaim).1 isLate⟩
  · rw [filter_isDispute_notes]
    apply forall₂_filter_filterMap
    · intro claim isClaim isOther
      rw [decide_eq_true_eq] at isOther
      have isClaimed : claim.2 ∈ (claimedPairs (discover devices)).map Prod.snd :=
        List.mem_map.2 ⟨claim, isClaim, rfl⟩
      have hasReflector := mt get?_reflectors_eq_none_iff.1 (not_not.2 isClaimed)
      obtain ⟨holder, isHolder⟩ := Option.ne_none_iff_exists'.1 hasReflector
      have differs : holder ≠ claim.1 := by
        intro same
        rw [reflectorsAre, isHolder, same] at isOther
        exact isOther rfl
      have drops : Drops internal claim (.disputedClient claim.2 holder claim.1) :=
        { notReflector := isOther
          notClient := mt (mem_clients_iff succeeded).1 isOther
          noted := ⟨holder, reflectorsAre ▸ isHolder, rfl⟩
          warns := rfl }
      refine ⟨_, ?_, drops⟩
      rw [isHolder]
      exact if_neg differs
    · intro claim _ isReflector
      rw [decide_eq_false_iff_not, ne_eq, not_not, reflectorsAre] at isReflector
      rw [isReflector]
      exact if_pos rfl

/-- The reflectors and clients of all devices are those that the claims of their sessions
settle, in the order in which the sessions are discovered. -/
structure SettlesReflectors (devices : Table String Device) (internal : InternalSessions) :
    Prop where
  settled : internal.reflectorOf = (Hierarchy.settle (discover devices).entries).reflectorOf ∧
    internal.clients = (Hierarchy.settle (discover devices).entries).clients ∧
      (notes devices).filter Note.isDispute =
        (Hierarchy.settle (discover devices).entries).disputes
  agree : ∀ reflector client, client ∈ (internal.clients.get? reflector).getD [] ↔
    internal.reflectorOf.get? client = some reflector
  first : ∀ client, internal.reflectorOf.get? client =
    ((discover devices).entries.find? fun session =>
      decide (session.1.2 = client) && session.2.reflectorClient).map fun session => session.1.1
  entered : ∀ device, internal.clients.contains device = true ↔
    ∃ remote, HasSession devices (device, remote)
  dropped : ∃ late, late.Sublist (claimedPairs (discover devices)) ∧
    (∀ claim, claim ∈ late ↔ IsLate (claimedPairs (discover devices)) claim) ∧
      List.Forall₂ (Drops internal) late ((notes devices).filter Note.isDispute)

/-- Whatever the devices claim, the clients of a device are those whose reflector it is, and
the reflector of a client is the first device that claims it; later claims are dropped. -/
theorem reflectors_follow_first_claims (devices : Table String Device) (options : Options) :
    ∃ internal, resolve devices options = .ok internal ∧ SettlesReflectors devices internal := by
  obtain ⟨internal, succeeded⟩ := exists_resolve devices options
  have settled := Hierarchy.settle_eq (discover devices).keysNodup
  refine ⟨internal, succeeded, ?_⟩
  constructor
  case settled =>
    rw [settled]
    exact ⟨reflectorOf_eq succeeded, clients_eq succeeded, filter_isDispute_notes devices⟩
  case agree =>
    intro reflector client
    exact mem_clients_iff succeeded
  case first =>
    intro client
    rw [reflectorOf_eq succeeded, get?_reflectors_claimsAmong]
  case entered => exact contains_clients_iff succeeded
  case dropped => exact exists_dropped succeeded

end InternalSessions

end RoutingPlane
