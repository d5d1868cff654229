import RoutingPlane.Proofs.Device.OutOfRange
import RoutingPlane.Proofs.Snapshot.Parts
import RoutingPlane.Proofs.Yaml.Decoded

/-!
Faults of reading a snapshot. A fault is told as one of the snapshot, with the name of the device
if it lies in one, or it comes from a value that no part accounts for: the devices are no
mapping, the links cannot be gone through, a number of a device is out of range, or a value
cannot be written. Only an empty tuple for a network could make an item missing, and no document
has one there.
-/

namespace RoutingPlane

open RoutingPlane.Decimal

/-! ## Collections -/

namespace Value

variable {value : Value} {fault : ValueFault}

/-- A value can be gone through. -/
def IsIterable (value : Value) : Prop :=
  ∃ elements, value.elements = .ok elements

theorem fieldsOrNone_eq_error_iff :
    value.fieldsOrNone = .error fault ↔
      fault = .wrongKind .fields ∧ value.truthy = true ∧
        ∀ entries, value.opened ≠ .map entries := by
  rw [fieldsOrNone]
  by_cases given : value.truthy = true
  · rw [if_pos given, fields_eq_error_iff]
    simp [given]
  · rw [if_neg given]
    simp [given]

theorem not_isIterable_of_elements (fails : value.elements = .error fault) :
    fault = .wrongKind .elements ∧ ¬value.IsIterable := by
  refine ⟨elements_within value fault fails, ?_⟩
  rintro ⟨elements, succeeds⟩
  cases fails.symm.trans succeeds

theorem of_elementsOrNone_eq_error (fails : value.elementsOrNone = .error fault) :
    fault = .wrongKind .elements ∧ value.truthy = true ∧ ¬value.IsIterable := by
  rw [elementsOrNone] at fails
  split at fails
  · rename_i given
    obtain ⟨isWrongKind, notIterable⟩ := not_isIterable_of_elements fails
    exact ⟨isWrongKind, given, notIterable⟩
  · cases fails

end Value

/-! ## Links -/

namespace Link

/-- A link cannot be gone through. Otherwise a fault in it is told, or an endpoint cannot be
written. -/
theorem of_read_eq_error {devices : Table String Device} {value : Value} {fault : Fault}
    (fails : Link.read devices value = .error fault) :
    (fault = .value (.wrongKind .elements) ∧ ¬value.IsIterable) ∨
      (∃ told, fault = .snapshot told) ∨
        ∃ cause, fault = .value cause ∧ cause.isUnwritable = true := by
  have endpointFails : ∀ endpoint, FailsWithin (fun fault => (∃ told, fault = .snapshot told) ∨
      ∃ cause, fault = .value cause ∧ cause.isUnwritable = true) (readEndpoint endpoint) := by
    intro endpoint
    refine .bind (.mapError ?_) fun shown _ => ?_
    · exact endpoint.toText_within.imp fun cause unwritable => .inr ⟨cause, rfl, unwritable⟩
    split
    · split
      · exact .error (.inl ⟨_, rfl⟩)
      · exact .ok _
    · exact .error (.inl ⟨_, rfl⟩)
  rcases bind_eq_error_iff.1 fails with noElements | ⟨ends, _, fails⟩
  · obtain ⟨cause, isCause, rfl⟩ := mapError_eq_error_iff.1 noElements
    obtain ⟨rfl, notIterable⟩ := Value.not_isIterable_of_elements isCause
    exact .inl ⟨rfl, notIterable⟩
  rcases bind_eq_error_iff.1 fails with endpoint | ⟨endpoints, _, fails⟩
  · exact .inr (FailsWithin.mapM (fun endpoint _ => endpointFails endpoint) fault endpoint)
  · split at fails
    · cases fails
      exact .inr (.inl ⟨_, rfl⟩)
    · cases fails

end Link

namespace Snapshot

variable {fault : Fault} {entries : List (Value × Value)}

/-! ## Settings and devices -/

theorem of_readOptions_eq_error {value : Value} (fails : readOptions value = .error fault) :
    fault = .value .longText ∨ ∃ told, fault = .snapshot (.settings told) := by
  obtain ⟨cause, _, rfl⟩ := mapError_eq_error_iff.1 fails
  split
  · exact .inl rfl
  · exact .inr ⟨_, rfl⟩

/-- A device fails to be read: its name cannot be written, its fault is told for it, or a value
in it escapes. -/
inductive DeviceFails (key value : Value) : Fault → Prop
  | name {cause : ValueFault} : key.toText = .error cause → DeviceFails key value (.value cause)
  | told {name : String} {fault : DeviceFault} : key.toText = .ok name →
      DeviceFails key value (.snapshot (.device name fault))
  | escaped {name : String} {cause : ValueFault} : key.toText = .ok name →
      Device.read name value = .error (.value cause) → cause.escapes = true →
        DeviceFails key value (.value cause)

/-- A device that is not read fails in one of three ways. -/
theorem deviceFails_of_readDevice {key value : Value}
    (fails : readDevice key value = .error fault) : DeviceFails key value fault := by
  rcases bind_eq_error_iff.1 fails with unwritten | ⟨name, isName, fails⟩
  · obtain ⟨cause, isCause, rfl⟩ := mapError_eq_error_iff.1 unwritten
    exact .name isCause
  have isName := mapError_eq_ok_iff.1 isName
  rcases bind_eq_error_iff.1 fails with reported | ⟨device, _, fails⟩
  · unfold reportDevice at reported
    split at reported
    · cases reported
    · rename_i cause notRead
      split at reported
      · rename_i escapes
        cases reported
        exact .escaped isName notRead escapes
      · cases reported
        exact .told isName
    · cases reported
      exact .told isName
  · cases fails

/-- The first device that cannot be read decides. -/
theorem of_readDevices_eq_error (fails : readDevices entries = .error fault) :
    ∃ before entry after, entries = before ++ entry :: after ∧
      readDevice entry.1 entry.2 = .error fault ∧
        ∀ earlier ∈ before, ∃ named, readDevice earlier.1 earlier.2 = .ok named := by
  rcases bind_eq_error_iff.1 fails with fails | ⟨devices, _, fails⟩
  · exact mapM_eq_error_iff.1 fails
  · cases fails

/-! ## All faults -/

/-- Links cannot be gone through, or one of them cannot after all links before it are read. -/
def LinksNotIterable (devices : Table String Device) (links : Value) : Prop :=
  (links.truthy = true ∧ ¬links.IsIterable) ∨
    ∃ before link after, links.elementsOrNone = .ok (before ++ link :: after) ∧
      (∀ earlier ∈ before, ∃ read, Link.read devices earlier = .ok read) ∧ ¬link.IsIterable

/-- The ways in which a value is not accounted for while a snapshot is read. -/
inductive Unaccounted (entries : List (Value × Value)) : ValueFault → Prop
  /-- The settings are valid, but the devices are no mapping. -/
  | devices {options : Options} : readOptions (fieldOrNull "settings" entries) = .ok options →
      (fieldOrNull "devices" entries).truthy = true →
        (∀ deviceEntries, (fieldOrNull "devices" entries).opened ≠ .map deviceEntries) →
          Unaccounted entries (.wrongKind .fields)
  /-- All devices are read, but the links or one of them cannot be gone through. -/
  | links {deviceEntries : List (Value × Value)} {devices : Table String Device} :
      (fieldOrNull "devices" entries).fieldsOrNone = .ok deviceEntries →
        readDevices deviceEntries = .ok devices →
          LinksNotIterable devices (fieldOrNull "links" entries) →
            Unaccounted entries (.wrongKind .elements)
  /-- A number of a device is out of range. -/
  | number {deviceEntries : List (Value × Value)} {key device : Value} {cause : ValueFault} :
      (fieldOrNull "devices" entries).fieldsOrNone = .ok deviceEntries →
        (key, device) ∈ deviceEntries → Device.HasOverflow device cause → Unaccounted entries cause
  /-- A value has too many digits, or lies too deep, to be written. -/
  | unwritable {cause : ValueFault} : cause.isUnwritable = true → Unaccounted entries cause

/-- An item is missing in a device: the empty tuple stands for a network. -/
def LacksItem (entries : List (Value × Value)) : Prop :=
  ∃ deviceEntries key device, (fieldOrNull "devices" entries).fieldsOrNone = .ok deviceEntries ∧
    (key, device) ∈ deviceEntries ∧ Device.LacksItem device

theorem DeviceFails.told_or_unaccounted {deviceEntries : List (Value × Value)} {key value : Value}
    (isMapping : (fieldOrNull "devices" entries).fieldsOrNone = .ok deviceEntries)
    (isDevice : (key, value) ∈ deviceEntries) (fails : DeviceFails key value fault) :
    (∃ told, fault = .snapshot told) ∨
      ∃ cause, fault = .value cause ∧
        (Unaccounted entries cause ∨ cause = .noItem ∧ LacksItem entries) := by
  cases fails with
  | name unwritten => exact .inr ⟨_, rfl, .inl (.unwritable (key.toText_within _ unwritten))⟩
  | told _ => exact .inl ⟨_, rfl⟩
  | escaped _ notRead escapes =>
      rcases ValueFault.escapes_iff.1 escapes with overflows | rfl
      · rcases Device.of_read_overflows notRead overflows with hasOverflow | ⟨rfl, lacksItem⟩
        · exact .inr ⟨_, rfl, .inl (.number isMapping isDevice hasOverflow)⟩
        · exact .inr ⟨_, rfl, .inr ⟨rfl, deviceEntries, key, value, isMapping, isDevice, lacksItem⟩⟩
      · exact .inr ⟨_, rfl, .inl (.unwritable rfl)⟩

/-- A fault at any stage is told, or it comes from a value that is not accounted for. -/
theorem FailsAt.told_or_unaccounted (fails : FailsAt entries fault) :
    (∃ told, fault = .snapshot told) ∨
      ∃ cause, fault = .value cause ∧
        (Unaccounted entries cause ∨ cause = .noItem ∧ LacksItem entries) := by
  cases fails with
  | settings fails =>
      rcases of_readOptions_eq_error fails with rfl | ⟨told, rfl⟩
      · exact .inr ⟨.longText, rfl, .inl (.unwritable rfl)⟩
      · exact .inl ⟨_, rfl⟩
  | devices optionsRead notMapping =>
      obtain ⟨rfl, given, notMapping⟩ := Value.fieldsOrNone_eq_error_iff.1 notMapping
      exact .inr ⟨_, rfl, .inl (.devices optionsRead given notMapping)⟩
  | device isMapping fails =>
      obtain ⟨before, entry, after, rfl, fails, _⟩ := of_readDevices_eq_error fails
      exact (deviceFails_of_readDevice fails).told_or_unaccounted isMapping
        (List.mem_append_right before List.mem_cons_self)
  | links isMapping devicesRead notSequence =>
      obtain ⟨rfl, given, notIterable⟩ := Value.of_elementsOrNone_eq_error notSequence
      exact .inr ⟨_, rfl, .inl (.links isMapping devicesRead (.inl ⟨given, notIterable⟩))⟩
  | link isMapping devicesRead isSequence fails =>
      obtain ⟨before, link, after, rfl, fails, areRead⟩ := mapM_eq_error_iff.1 fails
      rcases Link.of_read_eq_error fails with
        ⟨rfl, notIterable⟩ | ⟨told, rfl⟩ | ⟨cause, rfl, unwritable⟩
      · exact .inr ⟨_, rfl, .inl (.links isMapping devicesRead
          (.inr ⟨before, link, after, isSequence, areRead, notIterable⟩))⟩
      · exact .inl ⟨told, rfl⟩
      · exact .inr ⟨cause, rfl, .inl (.unwritable unwritable)⟩

theorem not_lacksItem {value : Value} (isDecoded : value.IsDecoded)
    (opened : value.opened = .map entries) : ¬LacksItem entries := by
  rintro ⟨deviceEntries, key, device, isMapping, isDevice, lacksItem⟩
  have fields : FieldsOf value entries := fun _ _ found => ⟨entries, opened, found⟩
  exact Device.not_lacksItem isDecoded
    (Value.Contains.self.entryIn (fields.hasEntryIn isMapping isDevice)) lacksItem

/-- That the fields of a value are asked for in vain goes untold only of devices that are no
mapping. -/
theorem read_eq_wrongFields_iff {path : String} {value : Value} :
    read path value = .error (.value (.wrongKind .fields)) ↔
      ∃ entries options, value.opened = .map entries ∧
        readOptions (fieldOrNull "settings" entries) = .ok options ∧
          (fieldOrNull "devices" entries).truthy = true ∧
            ∀ deviceEntries, (fieldOrNull "devices" entries).opened ≠ .map deviceEntries := by
  constructor
  · intro fails
    rcases of_read_eq_error fails with notMapping | ⟨entries, opened, fails⟩
    · cases notMapping
    rcases fails.told_or_unaccounted with
      ⟨told, isTold⟩ | ⟨cause, isCause, unaccounted | ⟨isMissing, _⟩⟩
    · cases isTold
    · cases isCause
      cases unaccounted with
      | devices optionsRead given notMapping =>
          exact ⟨entries, _, opened, optionsRead, given, notMapping⟩
      | number _ _ hasOverflow => cases hasOverflow
      | unwritable unwritable => cases unwritable
    · cases isCause.trans (congrArg Fault.value isMissing)
  · rintro ⟨entries, options, opened, optionsRead, given, notMapping⟩
    have notFields := Value.fieldsOrNone_eq_error_iff.2 ⟨rfl, given, notMapping⟩
    rw [read, opened]
    refine bind_eq_error_iff.2 (.inr ⟨options, optionsRead, ?_⟩)
    exact bind_eq_error_iff.2 (.inl (mapError_eq_error_iff.2 ⟨_, notFields, rfl⟩))

/-- What is told while devices are read carries the name of the first one that is not read. -/
theorem named_of_readDevices {told : SnapshotFault}
    (fails : readDevices entries = .error (.snapshot told)) :
    ∃ before key device after name, entries = before ++ (key, device) :: after ∧
      (∀ earlier ∈ before, ∃ named, readDevice earlier.1 earlier.2 = .ok named) ∧
        key.toText = .ok name ∧ told.description.device = some name := by
  obtain ⟨before, ⟨key, device⟩, after, areEntries, fails, areRead⟩ := of_readDevices_eq_error fails
  cases deviceFails_of_readDevice fails with
  | told isName => exact ⟨before, key, device, after, _, areEntries, areRead, isName, rfl⟩

/-- A fault of reading a snapshot is told, or it comes from a value that is not accounted for. An
item is missing in no decoded value. -/
theorem told_or_unaccounted_of_read {path : String} {value : Value}
    (fails : read path value = .error fault) :
    (∃ told, fault = .snapshot told) ∨
      ∃ entries cause, value.opened = .map entries ∧ fault = .value cause ∧
        (Unaccounted entries cause ∨ cause = .noItem ∧ LacksItem entries ∧ ¬value.IsDecoded) := by
  rcases of_read_eq_error fails with rfl | ⟨entries, opened, fails⟩
  · exact .inl ⟨_, rfl⟩
  refine fails.told_or_unaccounted.imp_right ?_
  rintro ⟨cause, isCause, unaccounted | ⟨isMissing, lacksItem⟩⟩
  · exact ⟨entries, cause, opened, isCause, .inl unaccounted⟩
  · have notDecoded : ¬value.IsDecoded := fun isDecoded => not_lacksItem isDecoded opened lacksItem
    exact ⟨entries, cause, opened, isCause, .inr ⟨isMissing, lacksItem, notDecoded⟩⟩

/-- Two devices, of which the second one has an interface with a bandwidth that no double precision
number can express. -/
def hugeBandwidth : Value :=
  .map [(.text "devices", .map [
    (.text "r1", .null),
    (.text "r2", .map [(.text "interfaces", .map [
      (.text "eth0", .map [(.text "bandwidth", .int overflowBound)])])])])]

theorem exists_read_nothing (path : String) : ∃ snapshot, read path (.map []) = .ok snapshot :=
  ⟨_, rfl⟩

/-- Every fault of loading a snapshot from a file is told, or one of the document, or it comes from
a value of the document that is not accounted for. -/
theorem load_faults {path : String} {file : Option String} (fails : load path file = .error fault) :
    (∃ told, fault = .snapshot told) ∨ (∃ cause, fault = .document cause) ∨
      ∃ text value entries cause, file = some text ∧ Yaml.documentValue text = .ok value ∧
        value.opened = .map entries ∧ fault = .value cause ∧ Unaccounted entries cause := by
  cases file with
  | none =>
      cases fails
      exact .inl ⟨_, rfl⟩
  | some text =>
      rw [load] at fails
      by_cases holdsHalf : Text.holdsHalf text = true
      · rw [if_pos holdsHalf] at fails
        cases fails
        exact .inr (.inl ⟨_, rfl⟩)
      rw [if_neg holdsHalf] at fails
      split at fails
      · cases fails
        exact .inl ⟨_, rfl⟩
      · cases fails
        exact .inr (.inl ⟨_, rfl⟩)
      · rename_i value isValue
        by_cases given : value.truthy = true
        · rw [if_pos given] at fails
          rcases told_or_unaccounted_of_read fails with
            isTold | ⟨entries, cause, opened, isCause, unaccounted | ⟨_, _, notDecoded⟩⟩
          · exact .inl isTold
          · refine .inr (.inr ⟨text, value, entries, cause, rfl, isValue, ?_⟩)
            exact ⟨opened, isCause, unaccounted⟩
          · exact absurd (Yaml.isDecoded_of_documentValue isValue) notDecoded
        · rw [if_neg given] at fails
          obtain ⟨snapshot, isRead⟩ := exists_read_nothing path
          cases fails.symm.trans isRead

end Snapshot

end RoutingPlane
