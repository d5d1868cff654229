import RoutingPlane.Bgp.Internal
import RoutingPlane.Proofs.Table.Lookup

/-!
Which sessions inside autonomous systems are discovered: a device opens a session
to another one by the first of its internal statements whose network holds the
local address of the other one. The order of the devices plays no part.
-/

namespace RoutingPlane

namespace Table

universe u v w

variable {κ : Type u} {β : Type v} {γ : Type w} [DecidableEq κ]

theorem find?_flatMap {α : Type w} (key : κ) (items : List α) (entriesOf : α → List (κ × β)) :
    find? key (items.flatMap entriesOf) =
      items.findSome? fun item => find? key (entriesOf item) := by
  induction items with
  | nil =>
      rfl
  | cons item rest inductionHypothesis =>
      rw [List.flatMap_cons, find?_append, inductionHypothesis, List.findSome?_cons]
      cases find? key (entriesOf item) <;> rfl

/-- Only the entry of a key counts if the entries of other keys give nothing. -/
theorem findSome?_entries (table : Table κ β) (key : κ) {search : κ × β → Option γ}
    (others : ∀ entry ∈ table.entries, entry.1 ≠ key → search entry = none) :
    table.entries.findSome? search =
      (table.get? key).bind fun value => search (key, value) := by
  unfold get?
  have nodup := table.keysNodup
  revert others nodup
  induction table.entries with
  | nil =>
      intro _ _
      rfl
  | cons entry rest inductionHypothesis =>
      intro others nodup
      obtain ⟨first, value⟩ := entry
      rw [List.map_cons, List.nodup_cons] at nodup
      have othersRest : ∀ entry ∈ rest, entry.1 ≠ key → search entry = none :=
        fun entry inRest => others entry (List.mem_cons_of_mem _ inRest)
      rw [List.findSome?_cons, inductionHypothesis othersRest nodup.2]
      by_cases same : first = key
      · subst same
        have notInRest : find? first rest = none := find?_eq_none_iff.2 nodup.1
        cases found : search (first, value) <;> simp [find?, notInRest, found]
      · have nothing := others (first, value) List.mem_cons_self same
        simp [find?, same, nothing]

end Table

namespace InternalSessions

theorem get?_putFirst {κ β : Type} [DecidableEq κ] (table : Table κ β)
    (key other : κ) (value : β) :
    (putFirst table key value).get? other =
      (table.get? other).or (if key = other then some value else none) := by
  unfold putFirst Table.contains
  cases found : table.get? key with
  | some present =>
      by_cases same : key = other
      · simp [← same, found]
      · simp [same]
  | none =>
      rw [Option.isSome_none, if_neg Bool.false_ne_true, Table.get?_put]
      by_cases same : key = other
      · simp [← same, found]
      · simp [same, Ne.symm same]

theorem get?_foldl_putFirst {κ β : Type} [DecidableEq κ]
    (entries : List (κ × β)) (table : Table κ β) (key : κ) :
    (entries.foldl (fun table entry => putFirst table entry.1 entry.2) table).get? key =
      (table.get? key).or (Table.find? key entries) := by
  induction entries generalizing table with
  | nil =>
      simp [Table.find?]
  | cons entry rest inductionHypothesis =>
      rw [List.foldl_cons, inductionHypothesis, get?_putFirst, Option.or_assoc]
      by_cases same : entry.1 = key
      · simp [Table.find?, same]
      · simp [Table.find?, same]

variable {devices left right : Table String Device}

/-- The statement by which a device opens a session to another one. -/
def openingStatement? (devices : Table String Device) (opener remote : String) :
    Option BgpNeighbor :=
  if opener = remote then none
  else
    match devices.get? opener, (devices.get? remote).bind localAddress? with
    | some device, some address =>
        (internalNeighbors device).find? fun neighbor => neighbor.peers.contains address
    | _, _ => none

theorem mem_localAddresses_iff {remote : String} {address : Address} :
    (remote, address) ∈ localAddresses devices ↔
      (devices.get? remote).bind localAddress? = some address := by
  simp only [localAddresses, List.mem_filterMap, Option.map_eq_some_iff, Prod.mk.injEq,
    Prod.exists, Option.bind_eq_some_iff, Table.get?_eq_some_iff]
  constructor
  · intro isLocalEntry
    obtain ⟨name, device, isEntry, found, isLocal, rfl, rfl⟩ := isLocalEntry
    exact ⟨device, isEntry, isLocal⟩
  · intro usesAddress
    obtain ⟨device, isEntry, isLocal⟩ := usesAddress
    exact ⟨remote, device, isEntry, address, isLocal, rfl, rfl⟩

theorem opener_of_mem_openedBy {addresses : List (String × Address)} {opener : String}
    {neighbor : BgpNeighbor} {session : DevicePair × BgpNeighbor}
    (isOpened : session ∈ openedBy addresses opener neighbor) :
    session.1.1 = opener := by
  obtain ⟨entry, _, rfl⟩ := List.mem_map.1 isOpened
  rfl

/-- A statement opens a session to a remote device exactly if the remote device is
another one and its local address is among the peers. -/
theorem find?_openedBy (opener remote : String) (neighbor : BgpNeighbor) :
    Table.find? (opener, remote) (openedBy (localAddresses devices) opener neighbor) =
      if opener ≠ remote ∧
          ∃ address, (devices.get? remote).bind localAddress? = some address ∧
            neighbor.peers.contains address
      then some neighbor else none := by
  split
  next opens =>
    obtain ⟨different, address, isLocal, holds⟩ := opens
    cases found : Table.find? (opener, remote)
        (openedBy (localAddresses devices) opener neighbor) with
    | none =>
        have isOpened : ((opener, remote), neighbor) ∈
            openedBy (localAddresses devices) opener neighbor := by
          refine List.mem_map.2 ⟨(remote, address), ?_, rfl⟩
          rw [List.mem_filter, mem_localAddresses_iff]
          exact ⟨isLocal, by simp [different, holds]⟩
        exact absurd (List.mem_map.2 ⟨_, isOpened, rfl⟩) (Table.find?_eq_none_iff.1 found)
    | some other =>
        have isOther := Table.mem_of_find? found
        obtain ⟨entry, _, same⟩ := List.mem_map.1 isOther
        rw [(Prod.mk.inj same).2]
  next opensNot =>
    rw [Table.find?_eq_none_iff]
    intro isKey
    obtain ⟨session, isOpened, isPair⟩ := List.mem_map.1 isKey
    obtain ⟨⟨name, address⟩, isKept, rfl⟩ := List.mem_map.1 isOpened
    obtain ⟨_, rfl⟩ := Prod.mk.inj isPair
    rw [List.mem_filter, mem_localAddresses_iff, Bool.and_eq_true, decide_eq_true_eq] at isKept
    exact opensNot ⟨isKept.2.1, address, isKept.1, isKept.2.2⟩

/-- What is discovered, pair by pair. A device opens its own sessions only, so the statements of the
others find nothing. -/
theorem get?_discover (devices : Table String Device) (opener remote : String) :
    (discover devices).get? (opener, remote) = openingStatement? devices opener remote := by
  have searched : (discover devices).get? (opener, remote) =
      devices.entries.findSome? fun entry =>
        Table.find? (opener, remote)
          ((internalNeighbors entry.2).flatMap
            (openedBy (localAddresses devices) entry.1)) := by
    rw [discover, get?_foldl_putFirst, Table.get?_empty, Option.none_or,
      Table.find?_flatMap]
  rw [searched, Table.findSome?_entries devices opener]
  · unfold openingStatement?
    cases isDevice : devices.get? opener with
    | none => simp
    | some device =>
        simp only [Option.bind_some, Table.find?_flatMap, find?_openedBy]
        by_cases same : opener = remote
        · simp [same]
        · cases isLocal : (devices.get? remote).bind localAddress? with
          | none => simp
          | some address =>
              simp only [same, ne_eq, not_false_eq_true, Option.some.injEq,
                exists_eq_left', true_and, if_false]
              rw [← List.findSome?_guard]
              rfl
  · intro entry _ different
    rw [Table.find?_eq_none_iff]
    intro isKey
    obtain ⟨session, isOpened, isPair⟩ := List.mem_map.1 isKey
    obtain ⟨neighbor, _, isOpened⟩ := List.mem_flatMap.1 isOpened
    have isOpener := opener_of_mem_openedBy isOpened
    rw [isPair] at isOpener
    exact different isOpener.symm

/-- The same devices in any order open the same sessions. -/
theorem sameMap_discover (same : left.SameMap right) :
    (discover left).SameMap (discover right) := by
  rintro ⟨opener, remote⟩
  simp only [get?_discover, openingStatement?, same _]

end InternalSessions

end RoutingPlane
