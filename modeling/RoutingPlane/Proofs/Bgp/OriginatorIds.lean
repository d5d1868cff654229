import RoutingPlane.Proofs.Bgp.Resolution

/-!
The numbers of the devices at the ends of sessions inside autonomous systems. The discovered
sessions are gone through twice with one counter, first for the devices that open them and then
for their remote devices, and a device is numbered where it first appears. So the numbers are
dense, the devices that open a session come first, in the order of the configuration, and the
others follow in the order in which the sessions lead to them.
-/

namespace RoutingPlane.InternalSessions

variable {devices : Table String Device} {options : Options} {internal : InternalSessions}
  {device left right : String} {id : Nat}

/-! ## One counter -/

structure Numbering where
  ids : Table String Nat := .empty
  next : Nat := 1

namespace Numbering

/-- Gives a device the next number unless it has one. -/
def enter (numbering : Numbering) (device : String) : Numbering :=
  if numbering.ids.contains device then numbering
  else { ids := numbering.ids.put device numbering.next, next := numbering.next + 1 }

/-- Goes through some sessions for the devices that open them, and again for the remote ones. -/
def settle (pairs : List DevicePair) : Numbering :=
  let opened := pairs.foldl (fun numbering pair => numbering.enter pair.1) {}
  pairs.foldl (fun numbering pair => numbering.enter pair.2) opened

/-- Some devices numbered in the order in which they first appear. -/
def ofNames (names : List String) : Numbering where
  ids := Table.ofList (names.eraseDups.zipIdx 1)
  next := names.eraseDups.length + 1

variable {names : List String}

theorem contains_ofNames_iff : (ofNames names).ids.contains device = true ↔ device ∈ names := by
  rw [Table.contains_iff_mem_keys, ofNames, Table.mem_keys_ofList_iff, List.zipIdx_map_fst,
    List.mem_eraseDups]

/-- Numbering one more device numbers the list with that device at its end. -/
theorem enter_ofNames (names : List String) (device : String) :
    (ofNames names).enter device = ofNames (names ++ [device]) := by
  rw [enter]
  by_cases isThere : device ∈ names
  · rw [if_pos (contains_ofNames_iff.2 isThere), ofNames, ofNames,
      eraseDups_append_of_mem isThere]
  · have oneMore : Table.ofList ((names.eraseDups ++ [device]).zipIdx 1) =
        (ofNames names).ids.put device (ofNames names).next := by
      rw [List.zipIdx_append, Table.ofList, Table.putAll, List.foldl_append, Nat.add_comm]
      rfl
    rw [if_neg (mt contains_ofNames_iff.1 isThere), ofNames, ofNames,
      eraseDups_append_of_not_mem isThere, oneMore, List.length_append]
    rfl

theorem foldl_enter_ofNames (front : List String) (pairs : List DevicePair)
    (endOf : DevicePair → String) :
    pairs.foldl (fun numbering pair => numbering.enter (endOf pair)) (ofNames front) =
      ofNames (front ++ pairs.map endOf) := by
  induction pairs generalizing front with
  | nil => rw [List.foldl_nil, List.map_nil, List.append_nil]
  | cons pair rest inductionHypothesis =>
      rw [List.foldl_cons, enter_ofNames, inductionHypothesis, List.map_cons, List.append_assoc]
      rfl

/-- Going through sessions one at a time numbers their devices as they first appear. -/
theorem settle_eq (pairs : List DevicePair) :
    settle pairs = ofNames (pairs.map Prod.fst ++ pairs.map Prod.snd) := by
  have opened := foldl_enter_ofNames [] pairs Prod.fst
  rw [List.nil_append] at opened
  rw [settle, ← foldl_enter_ofNames, ← opened]
  rfl

end Numbering

theorem zipIdx_eq_map {names : List String} (nodup : names.Nodup) :
    names.zipIdx 1 = names.map fun name => (name, names.idxOf name + 1) := by
  apply List.ext_getElem
  · rw [List.length_zipIdx, List.length_map]
  · intro place isInside _
    rw [List.length_zipIdx] at isInside
    rw [List.getElem_zipIdx, List.getElem_map, nodup.idxOf_getElem place isInside, Nat.add_comm]

/-! ## The order of the devices -/

theorem keys_foldl_putFirst {κ β : Type} [DecidableEq κ] (entries : List (κ × β)) :
    (entries.foldl (fun table entry => putFirst table entry.1 entry.2)
      Table.empty).keys.Sublist (entries.map Prod.fst) := by
  induction entries using List.reverseRecOn with
  | nil => exact List.Sublist.refl []
  | append_singleton front last inductionHypothesis =>
      rw [List.foldl_append, List.map_append, List.foldl_cons, List.foldl_nil, putFirst]
      split
      case isTrue => exact inductionHypothesis.trans (List.sublist_append_left _ _)
      case isFalse isNew =>
        rw [Table.contains_iff_mem_keys] at isNew
        rw [Table.keys, Table.entries_put_of_not_mem _ isNew, List.map_append]
        exact inductionHypothesis.append (List.Sublist.refl _)

/-- The sessions are discovered device by device, in the order of the configuration. -/
theorem pairwise_keys_discover (devices : Table String Device) :
    (discover devices).keys.Pairwise fun earlier later =>
      devices.keys.idxOf earlier.1 ≤ devices.keys.idxOf later.1 := by
  apply List.Pairwise.sublist (keys_foldl_putFirst _)
  rw [List.pairwise_map, List.pairwise_flatMap]
  have openedByDevice : ∀ entry : String × Device, ∀ session ∈
      (internalNeighbors entry.2).flatMap (openedBy (localAddresses devices) entry.1),
        session.1.1 = entry.1 := by
    intro entry session isOpened
    obtain ⟨neighbor, _, isOpened⟩ := List.mem_flatMap.1 isOpened
    exact opener_of_mem_openedBy isOpened
  constructor
  · intro entry _
    apply List.pairwise_of_forall_mem_list
    intro earlier isEarlier later isLater
    have isOpener := openedByDevice entry earlier isEarlier
    have isLaterOpener := openedByDevice entry later isLater
    exact Nat.le_of_eq (congrArg devices.keys.idxOf (isOpener.trans isLaterOpener.symm))
  · have keysNodup : devices.keys.Nodup := devices.keysNodup
    have keysOrdered : devices.entries.Pairwise fun earlier later =>
        devices.keys.idxOf earlier.1 < devices.keys.idxOf later.1 := by
      have ordered := pairwise_idxOf_eraseDups devices.keys
      rw [eraseDups_of_nodup keysNodup, Table.keys, List.pairwise_map] at ordered
      exact ordered
    refine keysOrdered.imp fun {first second} isBefore earlier isEarlier later isLater => ?_
    rw [openedByDevice first earlier isEarlier, openedByDevice second later isLater]
    exact Nat.le_of_lt isBefore

/-! ## The numbers of all devices -/

/-- The devices at the ends of the discovered sessions, as they are gone through. -/
def sessionEnds (devices : Table String Device) : List String :=
  (discover devices).keys.map Prod.fst ++ (discover devices).keys.map Prod.snd

theorem originatorIds_eq (succeeded : resolve devices options = .ok internal) :
    internal.originatorIds = (Numbering.ofNames (sessionEnds devices)).ids := by
  obtain ⟨rows, _, succeeded⟩ := bind_eq_ok_iff.1 succeeded
  have sameDevices : originators (discover devices) = (sessionEnds devices).eraseDups :=
    eraseDups_eraseDups_append _ _
  rw [← pure_eq_ok_iff.1 succeeded, sameDevices]
  rfl

theorem get?_originatorIds (succeeded : resolve devices options = .ok internal)
    (device : String) :
    internal.originatorIds.get? device =
      if device ∈ sessionEnds devices then
        some ((sessionEnds devices).eraseDups.idxOf device + 1)
      else none := by
  have nodup : (sessionEnds devices).eraseDups.Nodup := nodup_eraseDups _
  rw [originatorIds_eq succeeded, Numbering.ofNames, zipIdx_eq_map nodup,
    Table.get?_ofList_map nodup]
  simp only [List.mem_eraseDups]

theorem get?_originatorIds_eq_some_iff (succeeded : resolve devices options = .ok internal) :
    internal.originatorIds.get? device = some id ↔
      device ∈ sessionEnds devices ∧ (sessionEnds devices).eraseDups.idxOf device + 1 = id := by
  rw [get?_originatorIds succeeded]
  split
  case isTrue isEnd => simp [isEnd]
  case isFalse noEnd => simp [noEnd]

theorem size_originatorIds (succeeded : resolve devices options = .ok internal) :
    internal.originatorIds.size = (sessionEnds devices).eraseDups.length := by
  have nodup : (sessionEnds devices).eraseDups.Nodup := nodup_eraseDups _
  rw [originatorIds_eq succeeded, Numbering.ofNames, zipIdx_eq_map nodup, Table.size,
    Table.entries_ofList_map nodup, List.length_map]

/-- A device opens a session. -/
def OpensSession (devices : Table String Device) (device : String) : Prop :=
  ∃ remote, HasSession devices (device, remote)

theorem opensSession_iff :
    OpensSession devices device ↔ device ∈ (discover devices).keys.map Prod.fst := by
  simp only [OpensSession, ← mem_keys_discover_iff]
  simp

theorem mem_sessionEnds_iff :
    device ∈ sessionEnds devices ↔
      ∃ other, HasSession devices (device, other) ∨ HasSession devices (other, device) := by
  simp only [sessionEnds, List.mem_append, exists_or, ← mem_keys_discover_iff]
  simp

/-! ### The order of the numbers -/

theorem idxOf_lt_idxOf_of_opens (opensLeft : OpensSession devices left)
    (opensNot : ¬OpensSession devices right) :
    (sessionEnds devices).idxOf left < (sessionEnds devices).idxOf right := by
  rw [opensSession_iff] at opensLeft opensNot
  rw [sessionEnds, List.idxOf_append_of_mem opensLeft, List.idxOf_append_of_notMem opensNot]
  have isInside := List.idxOf_lt_length_of_mem opensLeft
  omega

/-- The devices that open a session appear in the order of the configuration. -/
theorem idxOf_lt_idxOf_iff_of_opens (opensLeft : OpensSession devices left)
    (opensRight : OpensSession devices right) :
    (sessionEnds devices).idxOf left < (sessionEnds devices).idxOf right ↔
      devices.keys.idxOf left < devices.keys.idxOf right := by
  rw [opensSession_iff] at opensLeft opensRight
  rw [sessionEnds, List.idxOf_append_of_mem opensLeft, List.idxOf_append_of_mem opensRight]
  apply idxOf_lt_idxOf_iff_of_pairwise
  · rw [List.pairwise_map]
    exact pairwise_keys_discover devices
  · intro first isFirst second _ samePlace
    obtain ⟨remote, _, opener, _, _, isOpener, _⟩ := opensSession_iff.2 isFirst
    exact (List.idxOf_inj (Table.mem_keys_iff_exists.2 ⟨opener, isOpener⟩)).1 samePlace
  · exact opensLeft
  · exact opensRight

theorem idxOf_lt_idxOf_iff_of_opensNot (opensNotLeft : ¬OpensSession devices left)
    (opensNotRight : ¬OpensSession devices right) :
    (sessionEnds devices).idxOf left < (sessionEnds devices).idxOf right ↔
      ((discover devices).keys.map Prod.snd).idxOf left <
        ((discover devices).keys.map Prod.snd).idxOf right := by
  rw [opensSession_iff] at opensNotLeft opensNotRight
  rw [sessionEnds, List.idxOf_append_of_notMem opensNotLeft,
    List.idxOf_append_of_notMem opensNotRight, Nat.add_lt_add_iff_left]

theorem id_lt_id_iff (succeeded : resolve devices options = .ok internal) {leftId rightId : Nat}
    (isLeft : internal.originatorIds.get? left = some leftId)
    (isRight : internal.originatorIds.get? right = some rightId) :
    leftId < rightId ↔ (sessionEnds devices).idxOf left < (sessionEnds devices).idxOf right := by
  rw [get?_originatorIds_eq_some_iff succeeded] at isLeft isRight
  obtain ⟨leftEnds, rfl⟩ := isLeft
  obtain ⟨rightEnds, rfl⟩ := isRight
  rw [Nat.add_lt_add_iff_right]
  exact idxOf_eraseDups_lt_iff leftEnds rightEnds

/-- The devices at the ends of sessions are numbered from one on, those that open a session before
the others. -/
structure NumbersOriginators (devices : Table String Device) (internal : InternalSessions) :
    Prop where
  settled : internal.originatorIds = (Numbering.settle (discover devices).keys).ids
  numbered : ∀ device, (∃ id, internal.originatorIds.get? device = some id) ↔
    ∃ other, HasSession devices (device, other) ∨ HasSession devices (other, device)
  distinct : ∀ left right id, internal.originatorIds.get? left = some id →
    internal.originatorIds.get? right = some id → left = right
  dense : ∀ id, (∃ device, internal.originatorIds.get? device = some id) ↔
    1 ≤ id ∧ id ≤ internal.originatorIds.size
  openersFirst : ∀ left right leftId rightId, internal.originatorIds.get? left = some leftId →
    internal.originatorIds.get? right = some rightId →
      OpensSession devices left → ¬OpensSession devices right → leftId < rightId
  /-- The devices that open a session are numbered in the order of the configuration. -/
  openersOrdered : ∀ left right leftId rightId, internal.originatorIds.get? left = some leftId →
    internal.originatorIds.get? right = some rightId →
      OpensSession devices left → OpensSession devices right →
        (leftId < rightId ↔ devices.keys.idxOf left < devices.keys.idxOf right)
  /-- The other devices are numbered in the order in which a session first leads to them. -/
  remotesOrdered : ∀ left right leftId rightId, internal.originatorIds.get? left = some leftId →
    internal.originatorIds.get? right = some rightId →
      ¬OpensSession devices left → ¬OpensSession devices right →
        (leftId < rightId ↔ ((discover devices).keys.map Prod.snd).idxOf left <
          ((discover devices).keys.map Prod.snd).idxOf right)

/-- Whatever the devices are configured to do, those at the ends of sessions have the numbers from
one on, in the order in which going through the sessions twice with one counter meets them. -/
theorem originators_numbered_in_order (devices : Table String Device) (options : Options) :
    ∃ internal, resolve devices options = .ok internal ∧ NumbersOriginators devices internal := by
  obtain ⟨internal, succeeded⟩ := exists_resolve devices options
  refine ⟨internal, succeeded, ?_⟩
  constructor
  case settled => rw [originatorIds_eq succeeded, Numbering.settle_eq, sessionEnds]
  case numbered =>
    intro device
    rw [← mem_sessionEnds_iff]
    simp only [get?_originatorIds_eq_some_iff succeeded, exists_and_left, exists_eq', and_true]
  case distinct =>
    intro left right id isLeft isRight
    rw [get?_originatorIds_eq_some_iff succeeded] at isLeft isRight
    have samePlace := Nat.succ.inj (isLeft.2.trans isRight.2.symm)
    exact (List.idxOf_inj (List.mem_eraseDups.2 isLeft.1)).1 samePlace
  case dense =>
    intro id
    simp only [get?_originatorIds_eq_some_iff succeeded, size_originatorIds succeeded]
    constructor
    · rintro ⟨device, isEnd, rfl⟩
      have isInside := List.idxOf_lt_length_of_mem (List.mem_eraseDups.2 isEnd)
      omega
    · rintro ⟨fromOne, isInside⟩
      have isPlace : id - 1 < (sessionEnds devices).eraseDups.length := by omega
      refine ⟨(sessionEnds devices).eraseDups[id - 1],
        List.mem_eraseDups.1 (List.getElem_mem isPlace), ?_⟩
      rw [(nodup_eraseDups _).idxOf_getElem _ isPlace]
      omega
  case openersFirst =>
    intro left right leftId rightId isLeft isRight opensLeft opensNot
    exact (id_lt_id_iff succeeded isLeft isRight).2 (idxOf_lt_idxOf_of_opens opensLeft opensNot)
  case openersOrdered =>
    intro left right leftId rightId isLeft isRight opensLeft opensRight
    rw [id_lt_id_iff succeeded isLeft isRight, idxOf_lt_idxOf_iff_of_opens opensLeft opensRight]
  case remotesOrdered =>
    intro left right leftId rightId isLeft isRight opensNotLeft opensNotRight
    rw [id_lt_id_iff succeeded isLeft isRight,
      idxOf_lt_idxOf_iff_of_opensNot opensNotLeft opensNotRight]

end RoutingPlane.InternalSessions
