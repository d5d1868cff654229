import RoutingPlane.Device.Reader
import RoutingPlane.Proofs.Table.Lookup

/-!
What a device is put together from. The parts in which the configuration of a device is read
are taken apart here once. What is kept in tables stands there under a key of its own, because
it is entered under it, whichever of several entries with one key counts in the end.
-/

namespace RoutingPlane

/-- What is entered under keys of its own stands under them. -/
theorem Table.of_get?_ofList_keyed {κ β : Type} [DecidableEq κ] {items : List β}
    {keyOf : β → κ} {key : κ} {item : β}
    (found : (ofList (items.map fun item => (keyOf item, item))).get? key = some item) :
    item ∈ items ∧ keyOf item = key := by
  have isEntry := mem_of_get?_ofList found
  obtain ⟨other, isItem, same⟩ := List.mem_map.1 isEntry
  obtain ⟨isKey, rfl⟩ := Prod.mk.inj same
  exact ⟨isItem, isKey⟩

/-! ## Processes -/

theorem of_readProcess_eq_ok {α : Type} {value : Value}
    {readValue : Value → Except DeviceFault α} {process : α}
    (succeeded : readProcess value readValue = .ok (some process)) :
    readValue value = .ok process := by
  unfold readProcess at succeeded
  split at succeeded
  · cases isRead : readValue value with
    | error fault =>
        rw [isRead] at succeeded
        cases succeeded
    | ok given =>
        rw [isRead] at succeeded
        cases succeeded
        rfl
  · cases succeeded

variable {interfaces : Table String Interface}

/-- The members of an area are interfaces of its device. -/
theorem OspfArea.get?_of_readMember {area name : Value} {interface : Interface}
    (succeeded : readMember interfaces area name = .ok interface) :
    ∃ place, interfaces.get? place = some interface := by
  have notUnknown : readMember.unknown area name ≠ .ok interface := by
    intro unknown
    obtain ⟨areaText, _, unknown⟩ := bind_eq_ok_iff.1 unknown
    obtain ⟨nameText, _, unknown⟩ := bind_eq_ok_iff.1 unknown
    cases unknown
  unfold readMember at succeeded
  split at succeeded
  next place =>
    split at succeeded
    next given isPlaced =>
      cases succeeded
      exact ⟨place, isPlaced⟩
    · exact absurd succeeded notUnknown
  · split at succeeded
    · exact absurd succeeded notUnknown
    · cases succeeded

theorem OspfArea.members_of_read {key members : Value} {area : OspfArea}
    (succeeded : OspfArea.read interfaces key members = .ok area) {member : Interface}
    (isMember : member ∈ area.interfaces) : ∃ place, interfaces.get? place = some member := by
  obtain ⟨names, _, succeeded⟩ := bind_eq_ok_iff.1 succeeded
  obtain ⟨placed, traversed, succeeded⟩ := bind_eq_ok_iff.1 succeeded
  obtain ⟨id, _, succeeded⟩ := bind_eq_ok_iff.1 succeeded
  rw [← pure_eq_ok_iff.1 succeeded] at isMember
  obtain ⟨name, _, isRead⟩ := exists_of_mem_mapM traversed isMember
  exact get?_of_readMember isRead

/-- Every area of a process stands under its number, and its members are interfaces of the
device. -/
theorem OspfProcess.areas_of_read {value : Value} {process : OspfProcess}
    (succeeded : OspfProcess.read interfaces value = .ok process) {id : Int} {area : OspfArea}
    (found : process.areas.get? id = some area) :
    area.id = id ∧ ∀ member ∈ area.interfaces, ∃ place, interfaces.get? place = some member := by
  obtain ⟨entries, _, succeeded⟩ := bind_eq_ok_iff.1 succeeded
  obtain ⟨areaEntries, _, succeeded⟩ := bind_eq_ok_iff.1 succeeded
  obtain ⟨areas, traversed, succeeded⟩ := bind_eq_ok_iff.1 succeeded
  obtain ⟨referenceBandwidth, _, succeeded⟩ := bind_eq_ok_iff.1 succeeded
  rw [← pure_eq_ok_iff.1 succeeded] at found
  obtain ⟨isArea, isId⟩ := Table.of_get?_ofList_keyed found
  obtain ⟨entry, _, isRead⟩ := exists_of_mem_mapM traversed isArea
  exact ⟨isId, fun member isMember => OspfArea.members_of_read isRead isMember⟩

/-! ## Devices -/

namespace Device

structure IsReadFrom (entries : List (Value × Value)) (name : String) (device : Device) :
    Prop where
  name : device.name = name
  interfaces : ∃ interfaceEntries,
    (fieldOrNull "interfaces" entries).fieldsOrNone = .ok interfaceEntries ∧
      readInterfaces interfaceEntries = .ok device.interfaces
  ospf : ∀ process, device.ospf = some process →
    OspfProcess.read device.interfaces (fieldOrNull "ospf" entries) = .ok process
  bgp : ∀ process, device.bgp = some process →
    BgpProcess.read (fieldOrNull "bgp" entries) = .ok process
  policies : ∀ place policy, device.policies.get? place = some policy → policy.name = place

/-- A device that is read has all its parts from its entries. -/
theorem isReadFrom_of_ofEntries {entries : List (Value × Value)} {name : String}
    {device : Device} (succeeded : ofEntries name entries = .ok device) :
    IsReadFrom entries name device := by
  obtain ⟨interfaceEntries, isMapping, succeeded⟩ := bind_eq_ok_iff.1 succeeded
  obtain ⟨interfaces, interfacesRead, succeeded⟩ := bind_eq_ok_iff.1 succeeded
  obtain ⟨ospf, ospfRead, succeeded⟩ := bind_eq_ok_iff.1 succeeded
  obtain ⟨bgp, bgpRead, succeeded⟩ := bind_eq_ok_iff.1 succeeded
  obtain ⟨routeValues, _, succeeded⟩ := bind_eq_ok_iff.1 succeeded
  obtain ⟨staticRoutes, _, succeeded⟩ := bind_eq_ok_iff.1 succeeded
  obtain ⟨vendor, _, succeeded⟩ := bind_eq_ok_iff.1 succeeded
  obtain ⟨policyEntries, _, succeeded⟩ := bind_eq_ok_iff.1 succeeded
  obtain ⟨policies, policiesRead, succeeded⟩ := bind_eq_ok_iff.1 succeeded
  rw [← pure_eq_ok_iff.1 succeeded]
  constructor
  case name => rfl
  case interfaces =>
    exact ⟨interfaceEntries, mapError_eq_ok_iff.1 isMapping, mapError_eq_ok_iff.1 interfacesRead⟩
  case ospf =>
    intro process isProcess
    subst isProcess
    exact of_readProcess_eq_ok ospfRead
  case bgp =>
    intro process isProcess
    subst isProcess
    exact mapError_eq_ok_iff.1 (of_readProcess_eq_ok bgpRead)
  case policies =>
    intro place policy found
    have isPolicy := Table.mem_of_get?_ofList found
    obtain ⟨entry, _, entryRead⟩ := exists_of_mem_mapM policiesRead isPolicy
    obtain ⟨shown, _, entryRead⟩ := bind_eq_ok_iff.1 entryRead
    obtain ⟨given, _, entryRead⟩ := bind_eq_ok_iff.1 entryRead
    obtain ⟨isPlace, rfl⟩ := Prod.mk.inj (pure_eq_ok_iff.1 entryRead)
    exact isPlace

theorem exists_isReadFrom {name : String} {value : Value} {device : Device}
    (succeeded : Device.read name value = .ok device) :
    ∃ entries, IsReadFrom entries name device := by
  obtain ⟨entries, _, succeeded⟩ := bind_eq_ok_iff.1 succeeded
  exact ⟨entries, isReadFrom_of_ofEntries succeeded⟩

end Device

end RoutingPlane
