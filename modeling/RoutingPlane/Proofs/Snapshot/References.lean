import RoutingPlane.Proofs.Snapshot.Adjacency
import RoutingPlane.Proofs.Snapshot.Names

/-!
References in a snapshot. The keys of a configuration are turned into texts, numbers and
networks, so entries with different keys may fall together. The last one of them counts then,
and it still stands under its own name; and since references are looked up after all entries
are read, each of them leads to what stands under its name in the end.
-/

namespace RoutingPlane

/-! ## Devices -/

/-- What a device keeps stands under its own name, network or number, and the members of its
areas are its own interfaces. -/
structure Device.IsSound (device : Device) : Prop where
  interfaces : ∀ name interface, device.interfaces.get? name = some interface →
    interface.IsConfigured name
  policies : ∀ name policy, device.policies.get? name = some policy → policy.name = name
  neighbors : ∀ process, device.bgp = some process →
    ∀ peers neighbor, process.neighbors.get? peers = some neighbor → neighbor.peers = peers
  areas : ∀ process, device.ospf = some process →
    ∀ id area, process.areas.get? id = some area → area.id = id ∧
      ∀ member ∈ area.interfaces, device.interfaces.get? member.name = some member

/-- A device that is read bears its name, and its references are sound. -/
theorem Device.sound_of_read {name : String} {value : Value} {device : Device}
    (succeeded : Device.read name value = .ok device) : device.name = name ∧ device.IsSound := by
  obtain ⟨entries, parts⟩ := exists_isReadFrom succeeded
  have areConfigured : ∀ place interface, device.interfaces.get? place = some interface →
      interface.IsConfigured place := by
    intro place interface found
    obtain ⟨settings, interfaceRead⟩ := exists_interface_read succeeded found
    exact Interface.isConfigured_of_read interfaceRead
  refine ⟨parts.name, ?_⟩
  constructor
  case interfaces => exact areConfigured
  case policies => exact parts.policies
  case neighbors =>
    intro process isProcess peers neighbor found
    exact process.peers_of_get? found
  case areas =>
    intro process isProcess id area found
    obtain ⟨isId, arePlaced⟩ := OspfProcess.areas_of_read (parts.ospf process isProcess) found
    refine ⟨isId, ?_⟩
    intro member isMember
    obtain ⟨place, isPlaced⟩ := arePlaced member isMember
    have isPlace : member.name = place := (areConfigured place member isPlaced).name
    rw [isPlace, isPlaced]

/-! ## Links -/

/-- A reference names an interface of a device. -/
def NamesInterface (devices : Table String Device) (ref : InterfaceRef) : Prop :=
  ∃ device interface, devices.get? ref.device = some device ∧
    device.interfaces.get? ref.interface = some interface

namespace Link

variable {devices : Table String Device} {ref : InterfaceRef}

theorem isKnown_iff : isKnown devices ref = true ↔ NamesInterface devices ref := by
  unfold isKnown NamesInterface
  cases devices.get? ref.device with
  | none => simp
  | some device => simp [Table.contains, Option.isSome_iff_exists]

theorem namesInterface_of_read {value : Value} {link : Link}
    (succeeded : Link.read devices value = .ok link) (isEndpoint : ref ∈ link) :
    NamesInterface devices ref := by
  obtain ⟨elements, _, succeeded⟩ := bind_eq_ok_iff.1 succeeded
  obtain ⟨endpoints, _, succeeded⟩ := bind_eq_ok_iff.1 succeeded
  split at succeeded
  · cases succeeded
  next noneUnknown =>
    obtain rfl := pure_eq_ok_iff.1 succeeded
    have notUnknown := List.find?_eq_none.1 noneUnknown ref isEndpoint
    rw [Bool.not_eq_true', Bool.not_eq_false] at notUnknown
    exact isKnown_iff.1 notUnknown

end Link

/-! ## Snapshots -/

namespace Snapshot

/-- All that a snapshot keeps stands under its own name, and all that it refers to exists. -/
structure IsSound (snapshot : Snapshot) : Prop where
  devices : ∀ name device, snapshot.devices.get? name = some device →
    device.name = name ∧ device.IsSound
  linked : ∀ ref others, snapshot.adjacency.get? ref = some others →
    NamesInterface snapshot.devices ref ∧ ∀ other ∈ others, NamesInterface snapshot.devices other

variable {path : String} {value : Value} {snapshot : Snapshot}

/-- Whatever value is read as a snapshot, all references in the snapshot are sound. -/
theorem isSound_of_read (succeeded : Snapshot.read path value = .ok snapshot) :
    snapshot.IsSound := by
  obtain ⟨entries, _, parts⟩ := read_eq_ok_iff.1 succeeded
  obtain ⟨linkValues, links, _, linksRead, isAdjacency⟩ := parts.adjacency
  have endpointsExist : ∀ link ∈ links, ∀ ref ∈ link, NamesInterface snapshot.devices ref := by
    intro link isLink ref isEndpoint
    obtain ⟨linkValue, _, linkRead⟩ := exists_of_mem_mapM linksRead isLink
    exact Link.namesInterface_of_read linkRead isEndpoint
  constructor
  case devices =>
    intro name device found
    obtain ⟨settings, deviceRead⟩ := exists_device_read succeeded found
    exact Device.sound_of_read deviceRead
  case linked =>
    intro ref others found
    rw [isAdjacency] at found
    constructor
    · have isKey : ref ∈ (Link.adjacency links).keys :=
        Table.mem_keys_iff_exists.2 ⟨others, found⟩
      obtain ⟨link, isLink, isEndpoint⟩ := Link.mem_keys_adjacency_iff.1 isKey
      exact endpointsExist link isLink ref isEndpoint
    · intro other isOther
      have isListed : other ∈ Link.listed (Link.adjacency links) ref := by
        rw [Link.listed, found]
        exact isOther
      obtain ⟨_, link, isLink, _, isEndpoint⟩ := Link.mem_listed_adjacency_iff.1 isListed
      exact endpointsExist link isLink other isEndpoint

/-- Devices, interfaces, areas, neighbors and policies with different keys that fall together
in pairs, and a link between the interfaces that remain. -/
def collidingKeys : Value :=
  .map [
    (.text "links", .list [.list [.text "1:2", .text "1:True", .text "1:2"]]),
    (.text "devices", .map [
      (.text "1", .map [(.text "vendor", .text "first")]),
      (.int 1, .map [
        (.text "ospf", .map [(.text "areas", .map [
          (.text "0", .list [.text "2"]), (.int 0, .list [.text "True", .text "2"])])]),
        (.text "routing_policies", .map [
          (.int 7, .list [.text "accept"]), (.text "7", .list [.text "reject"])]),
        (.text "bgp", .map [(.text "neighbors", .list [
          .map [(.text "prefix", .text "10.0.0.1/24")],
          .map [(.text "prefix", .text "10.0.0.2/24"), (.text "local_as", .int 65000)]])]),
        (.text "interfaces", .map [
          (.bool true, .null), (.int 2, .map [(.text "prefix", .text "10.0.0.3/24")]),
          (.text "True", .map [(.text "bandwidth", .int 1000)]), (.text "2", .null)])])])]

theorem isSound_of_read_collidingKeys :
    ∃ snapshot, Snapshot.read standardPath collidingKeys = .ok snapshot ∧
      snapshot.devices.keys = ["1"] ∧ snapshot.adjacency.keys.length = 2 ∧ snapshot.IsSound := by
  have evaluated : (Snapshot.read standardPath collidingKeys).toOption.any (fun snapshot =>
      decide (snapshot.devices.keys = ["1"] ∧ snapshot.adjacency.keys.length = 2)) = true := by
    decide +kernel
  obtain ⟨snapshot, isRead, evaluated⟩ := (Option.any_eq_true _ _).1 evaluated
  rw [toOption_eq_some_iff] at isRead
  obtain ⟨oneDevice, twoKeys⟩ := of_decide_eq_true evaluated
  exact ⟨snapshot, isRead, oneDevice, twoKeys, isSound_of_read isRead⟩

end Snapshot

end RoutingPlane
