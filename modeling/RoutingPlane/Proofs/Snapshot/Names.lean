import RoutingPlane.Proofs.Device.Parts
import RoutingPlane.Proofs.Snapshot.Parts

/-!
Names in a snapshot: every interface that a snapshot gives stands under its own
name in its device, and none of them is made up.
-/

namespace RoutingPlane

/-- Every interface of a device stands under its own name. -/
def NamesItsInterfaces (device : Device) : Prop :=
  ∀ name interface, device.interfaces.get? name = some interface → interface.name = name

/-- Every interface of every device stands under its own name. -/
def WellNamed (devices : Table String Device) : Prop :=
  ∀ router device, devices.get? router = some device → NamesItsInterfaces device

structure Interface.IsConfigured (name : String) (interface : Interface) : Prop where
  name : interface.name = name
  nameGiven : interface.nameGiven = none
  kind : interface.kind = .concrete

theorem Interface.isConfigured_of_read {name : String} {value : Value} {interface : Interface}
    (succeeded : Interface.read name value = .ok interface) : interface.IsConfigured name := by
  obtain ⟨entries, _, succeeded⟩ := bind_eq_ok_iff.1 succeeded
  obtain ⟨address, _, succeeded⟩ := bind_eq_ok_iff.1 succeeded
  obtain ⟨bandwidth, _, succeeded⟩ := bind_eq_ok_iff.1 succeeded
  obtain ⟨ospfCost, _, succeeded⟩ := bind_eq_ok_iff.1 succeeded
  rw [← pure_eq_ok_iff.1 succeeded]
  exact ⟨rfl, rfl, rfl⟩

theorem Interface.IsConfigured.isAbstract_eq {name : String} {interface : Interface}
    (isConfigured : interface.IsConfigured name) : interface.isAbstract = false := by
  rw [Interface.isAbstract, isConfigured.kind]

theorem exists_read_of_readInterfaces {entries : List (Value × Value)}
    {interfaces : Table String Interface} (succeeded : readInterfaces entries = .ok interfaces)
    {name : String} {interface : Interface} (found : interfaces.get? name = some interface) :
    ∃ value, Interface.read name value = .ok interface := by
  obtain ⟨named, traversed, succeeded⟩ := bind_eq_ok_iff.1 succeeded
  rw [← pure_eq_ok_iff.1 succeeded] at found
  obtain ⟨entry, _, readEntry⟩ := exists_of_mem_mapM traversed (Table.mem_of_get?_ofList found)
  obtain ⟨shown, _, readEntry⟩ := bind_eq_ok_iff.1 readEntry
  obtain ⟨readInterface, isRead, readEntry⟩ := bind_eq_ok_iff.1 readEntry
  obtain ⟨rfl, rfl⟩ := Prod.mk.inj (pure_eq_ok_iff.1 readEntry)
  exact ⟨entry.2, isRead⟩

/-- Every interface of a device that is read is read itself, under its place. -/
theorem Device.exists_interface_read {name : String} {value : Value} {device : Device}
    (succeeded : Device.read name value = .ok device) {place : String} {interface : Interface}
    (found : device.interfaces.get? place = some interface) :
    ∃ settings, Interface.read place settings = .ok interface := by
  obtain ⟨entries, parts⟩ := Device.exists_isReadFrom succeeded
  obtain ⟨interfaceEntries, _, interfacesRead⟩ := parts.interfaces
  exact exists_read_of_readInterfaces interfacesRead found

namespace Snapshot

theorem reportDevice_eq_ok_iff {name : String} {outcome : Except DeviceFault Device}
    {device : Device} : reportDevice name outcome = .ok device ↔ outcome = .ok device := by
  cases outcome with
  | ok given => simp [reportDevice]
  | error fault =>
      cases fault with
      | value fault =>
          cases escapes : fault.escapes <;> simp [reportDevice, escapes]
      | _ => simp [reportDevice]

theorem exists_device_read_of_readDevices {entries : List (Value × Value)}
    {devices : Table String Device} (succeeded : readDevices entries = .ok devices)
    {router : String} {device : Device} (found : devices.get? router = some device) :
    ∃ value, Device.read router value = .ok device := by
  obtain ⟨named, traversed, succeeded⟩ := bind_eq_ok_iff.1 succeeded
  rw [← pure_eq_ok_iff.1 succeeded] at found
  obtain ⟨entry, _, readEntry⟩ := exists_of_mem_mapM traversed (Table.mem_of_get?_ofList found)
  obtain ⟨name, _, readEntry⟩ := bind_eq_ok_iff.1 readEntry
  obtain ⟨reported, isReported, readEntry⟩ := bind_eq_ok_iff.1 readEntry
  obtain ⟨rfl, rfl⟩ := Prod.mk.inj (pure_eq_ok_iff.1 readEntry)
  exact ⟨entry.2, reportDevice_eq_ok_iff.1 isReported⟩

variable {path : String} {value : Value} {snapshot : Snapshot}

/-- Every device of a snapshot that is read is read itself, under its place. -/
theorem exists_device_read (succeeded : Snapshot.read path value = .ok snapshot)
    {router : String} {device : Device} (found : snapshot.devices.get? router = some device) :
    ∃ settings, Device.read router settings = .ok device := by
  obtain ⟨entries, _, parts⟩ := read_eq_ok_iff.1 succeeded
  obtain ⟨deviceEntries, _, devicesRead⟩ := parts.devices
  exact exists_device_read_of_readDevices devicesRead found

theorem isConfigured_interface (succeeded : Snapshot.read path value = .ok snapshot)
    {router : String} {device : Device} (isDevice : snapshot.devices.get? router = some device)
    {name : String} {interface : Interface}
    (found : device.interfaces.get? name = some interface) : interface.IsConfigured name := by
  obtain ⟨settings, readDevice⟩ := exists_device_read succeeded isDevice
  obtain ⟨interfaceSettings, readInterface⟩ := Device.exists_interface_read readDevice found
  exact Interface.isConfigured_of_read readInterface

theorem of_interface (succeeded : Snapshot.read path value = .ok snapshot) {router : String}
    {device : Device} (isDevice : snapshot.devices.get? router = some device) {name : String}
    {interface : Interface} (found : device.interfaces.get? name = some interface) :
    interface.name = name ∧ interface.isAbstract = false := by
  have isConfigured := isConfigured_interface succeeded isDevice found
  exact ⟨isConfigured.name, isConfigured.isAbstract_eq⟩

/-- A snapshot that is read names all interfaces by their places. -/
theorem wellNamed_of_read (succeeded : Snapshot.read path value = .ok snapshot) :
    WellNamed snapshot.devices :=
  fun _ _ isDevice _ _ found => (of_interface succeeded isDevice found).1

end Snapshot

end RoutingPlane
