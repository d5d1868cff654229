import RoutingPlane.Proofs.Failure
import RoutingPlane.Snapshot

/-!
What a snapshot is put together from, and where reading it fails. The stages in which a value
is read are taken apart here once: the settings, then the devices, then the links between them.
-/

namespace RoutingPlane.Snapshot

structure IsReadFrom (entries : List (Value × Value)) (snapshot : Snapshot) : Prop where
  options : readOptions (fieldOrNull "settings" entries) = .ok snapshot.options
  devices : ∃ deviceEntries, (fieldOrNull "devices" entries).fieldsOrNone = .ok deviceEntries ∧
    readDevices deviceEntries = .ok snapshot.devices
  adjacency : ∃ linkValues links, (fieldOrNull "links" entries).elementsOrNone = .ok linkValues ∧
    linkValues.mapM (Link.read snapshot.devices) = .ok links ∧
      snapshot.adjacency = Link.adjacency links

/-- A snapshot is read exactly from its three sections. -/
theorem ofEntries_eq_ok_iff {entries : List (Value × Value)} {snapshot : Snapshot} :
    ofEntries entries = .ok snapshot ↔ IsReadFrom entries snapshot := by
  constructor
  · intro succeeded
    obtain ⟨options, optionsRead, succeeded⟩ := bind_eq_ok_iff.1 succeeded
    obtain ⟨deviceEntries, isMapping, succeeded⟩ := bind_eq_ok_iff.1 succeeded
    obtain ⟨devices, devicesRead, succeeded⟩ := bind_eq_ok_iff.1 succeeded
    obtain ⟨linkValues, isSequence, succeeded⟩ := bind_eq_ok_iff.1 succeeded
    obtain ⟨links, linksRead, succeeded⟩ := bind_eq_ok_iff.1 succeeded
    rw [← pure_eq_ok_iff.1 succeeded]
    exact ⟨optionsRead, ⟨deviceEntries, mapError_eq_ok_iff.1 isMapping, devicesRead⟩,
      ⟨linkValues, links, mapError_eq_ok_iff.1 isSequence, linksRead, rfl⟩⟩
  · rintro ⟨optionsRead, ⟨deviceEntries, isMapping, devicesRead⟩,
      ⟨linkValues, links, isSequence, linksRead, isAdjacency⟩⟩
    refine bind_eq_ok_iff.2 ⟨_, optionsRead, ?_⟩
    refine bind_eq_ok_iff.2 ⟨_, mapError_eq_ok_iff.2 isMapping, ?_⟩
    refine bind_eq_ok_iff.2 ⟨_, devicesRead, ?_⟩
    refine bind_eq_ok_iff.2 ⟨_, mapError_eq_ok_iff.2 isSequence, ?_⟩
    refine bind_eq_ok_iff.2 ⟨_, linksRead, ?_⟩
    rw [pure_eq_ok_iff, ← isAdjacency]

/-- A value is read as a snapshot exactly if it is a mapping all of whose parts are read. -/
theorem read_eq_ok_iff {path : String} {value : Value} {snapshot : Snapshot} :
    read path value = .ok snapshot ↔
      ∃ entries, value.opened = .map entries ∧ IsReadFrom entries snapshot := by
  unfold read
  cases opened : value.opened <;> simp [ofEntries_eq_ok_iff]

/-- A stage of reading a snapshot fails after those that it builds on. -/
inductive FailsAt (entries : List (Value × Value)) : Fault → Prop
  | settings {fault : Fault} :
      readOptions (fieldOrNull "settings" entries) = .error fault → FailsAt entries fault
  | devices {options : Options} {cause : ValueFault} :
      readOptions (fieldOrNull "settings" entries) = .ok options →
        (fieldOrNull "devices" entries).fieldsOrNone = .error cause →
          FailsAt entries (.value cause)
  | device {deviceEntries : List (Value × Value)} {fault : Fault} :
      (fieldOrNull "devices" entries).fieldsOrNone = .ok deviceEntries →
        readDevices deviceEntries = .error fault → FailsAt entries fault
  | links {deviceEntries : List (Value × Value)} {devices : Table String Device}
      {cause : ValueFault} :
      (fieldOrNull "devices" entries).fieldsOrNone = .ok deviceEntries →
        readDevices deviceEntries = .ok devices →
          (fieldOrNull "links" entries).elementsOrNone = .error cause →
            FailsAt entries (.value cause)
  | link {deviceEntries : List (Value × Value)} {devices : Table String Device}
      {linkValues : List Value} {fault : Fault} :
      (fieldOrNull "devices" entries).fieldsOrNone = .ok deviceEntries →
        readDevices deviceEntries = .ok devices →
          (fieldOrNull "links" entries).elementsOrNone = .ok linkValues →
            linkValues.mapM (Link.read devices) = .error fault → FailsAt entries fault

/-- The stages are gone through in order, and the first one that fails decides. -/
theorem failsAt_of_ofEntries {entries : List (Value × Value)} {fault : Fault}
    (fails : ofEntries entries = .error fault) : FailsAt entries fault := by
  rcases bind_eq_error_iff.1 fails with fails | ⟨options, optionsRead, fails⟩
  · exact .settings fails
  rcases bind_eq_error_iff.1 fails with fails | ⟨deviceEntries, isMapping, fails⟩
  · obtain ⟨cause, notMapping, rfl⟩ := mapError_eq_error_iff.1 fails
    exact .devices optionsRead notMapping
  have isMapping := mapError_eq_ok_iff.1 isMapping
  rcases bind_eq_error_iff.1 fails with fails | ⟨devices, devicesRead, fails⟩
  · exact .device isMapping fails
  rcases bind_eq_error_iff.1 fails with fails | ⟨linkValues, isSequence, fails⟩
  · obtain ⟨cause, notSequence, rfl⟩ := mapError_eq_error_iff.1 fails
    exact .links isMapping devicesRead notSequence
  rcases bind_eq_error_iff.1 fails with fails | ⟨links, _, fails⟩
  · exact .link isMapping devicesRead (mapError_eq_ok_iff.1 isSequence) fails
  · cases fails

/-- Reading a value as a snapshot fails because it is no mapping, or at a stage. -/
theorem of_read_eq_error {path : String} {value : Value} {fault : Fault}
    (fails : read path value = .error fault) :
    fault = .snapshot (.notMapping path) ∨
      ∃ entries, value.opened = .map entries ∧ FailsAt entries fault := by
  unfold read at fails
  split at fails
  · rename_i entries opened
    exact .inr ⟨entries, opened, failsAt_of_ofEntries fails⟩
  · cases fails
    exact .inl rfl

end RoutingPlane.Snapshot
