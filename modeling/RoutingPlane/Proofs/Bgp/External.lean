import RoutingPlane.Bgp.External
import RoutingPlane.Proofs.EdgeMap.Keyed
import RoutingPlane.Proofs.Topology.Edges

/-!
Sessions between autonomous systems over the edges of a topology. The neighbor of
an edge is a function of its device and the edge, so the order of the devices
decides nothing. It is the first external peer whose address lies in the network of
the local interface, and an edge without such a peer carries no session.
-/

namespace RoutingPlane.ExternalSessions

variable {devices left right : Table String Device} {adjacency : Adjacency} {device : Device}
  {edge : Edge} {neighbor : BgpNeighbor} {router : String}

theorem mem_found_iff {edges : Table String (List Edge)} :
    (edge, neighbor) ∈ found devices edges ↔
      ∃ router device, devices.get? router = some device ∧
        edge ∈ (edges.get? router).getD [] ∧ neighborOver? device edge = some neighbor := by
  simp only [found, sessionsOver, List.mem_flatMap, Prod.exists, List.mem_filterMap,
    Option.map_eq_some_iff, Prod.mk.injEq, Table.get?_eq_some_iff]
  constructor
  · intro isFound
    obtain ⟨router, device, isDevice, _, isEdge, _, isNeighbor, rfl, rfl⟩ := isFound
    exact ⟨router, device, isDevice, isEdge, isNeighbor⟩
  · intro hasNeighbor
    obtain ⟨router, device, isDevice, isEdge, isNeighbor⟩ := hasNeighbor
    exact ⟨router, device, isDevice, edge, isEdge, neighbor, isNeighbor, rfl, rfl⟩

/-- No edge has two neighbors, because its key tells the local interface. -/
theorem consistent_found (named : WellNamed devices) :
    EdgeMap.Consistent (found devices (Topology.infer devices adjacency).edges) := by
  intro session isSession other isOther sameKey
  obtain ⟨router, device, isDevice, isEdge, isNeighbor⟩ := mem_found_iff.1 isSession
  obtain ⟨otherRouter, otherDevice, isOtherDevice, isOtherEdge, isOtherNeighbor⟩ :=
    mem_found_iff.1 isOther
  have sameEdge : session.1 = other.1 := Topology.eq_of_listed named isEdge isOtherEdge sameKey
  rw [← sameEdge] at isOtherEdge isOtherNeighbor
  have sameRouter : router = otherRouter :=
    (Topology.router_of_listed isEdge).symm.trans (Topology.router_of_listed isOtherEdge)
  subst sameRouter
  have sameDevice : device = otherDevice :=
    Option.some.inj (isDevice.symm.trans isOtherDevice)
  subst sameDevice
  exact Prod.ext sameEdge (Option.some.inj (isNeighbor.symm.trans isOtherNeighbor))

theorem sameMap_resolve (named : WellNamed left) (same : left.SameMap right)
    (adjacency : Adjacency) :
    (resolve left (Topology.infer left adjacency).edges).SameMap
      (resolve right (Topology.infer right adjacency).edges) := by
  apply EdgeMap.sameMap_ofList (consistent_found named)
  rintro ⟨edge, neighbor⟩
  simp only [mem_found_iff, same _, Topology.sameMap_edges same adjacency _]

/-! ## The first peer on the network of an edge -/

/-- A neighbor statement names a single peer outside the autonomous system, whose address lies
in the network of the same version to which an interface is connected. -/
structure IsPeerOn (interface : Interface) (neighbor : BgpNeighbor) : Prop where
  outside : neighbor.isInternal = false
  single : neighbor.peers.isHost = true
  connected : ∃ address, interface.address = some address ∧
    neighbor.peers.version = address.network.version ∧
      address.network.contains neighbor.peers.base = true

/-- A neighbor statement is the first one of the process of a device whose peer is on the
network of an interface. -/
def IsFirstPeerOn (device : Device) (interface : Interface) (neighbor : BgpNeighbor) : Prop :=
  ∃ process, device.bgp = some process ∧
    IsFirst (IsPeerOn interface) process.neighbors.values neighbor

/-- The tests of a neighbor that is looked for over an interface, at once. -/
theorem isPeerOn_iff {interface : Interface} {address : InterfaceAddress}
    (hasAddress : interface.address = some address) :
    (!neighbor.isInternal && neighbor.address?.isSome && liesIn address.network neighbor) = true ↔
      IsPeerOn interface neighbor := by
  cases outside : neighbor.isInternal with
  | true =>
      constructor
      · intro tested
        cases tested
      · intro isPeer
        rw [isPeer.outside] at outside
        cases outside
  | false =>
      by_cases single : neighbor.peers.isHost = true
      · have isSingle : neighbor.address? = some neighbor.peers.base := if_pos single
        rw [liesIn, isSingle, Option.isSome_some, Bool.not_false, Bool.true_and, Bool.true_and]
        constructor
        · intro holds
          have sameVersion : neighbor.peers.version = address.network.version :=
            (Network.version_eq_of_contains holds).symm
          exact ⟨outside, single, address, hasAddress, sameVersion, holds⟩
        · intro isPeer
          obtain ⟨other, hasOther, _, holds⟩ := isPeer.connected
          rw [hasAddress, Option.some.injEq] at hasOther
          rw [hasOther]
          exact holds
      · have notSingle : neighbor.address? = none := if_neg single
        rw [notSingle]
        constructor
        · intro tested
          cases tested
        · intro isPeer
          exact absurd isPeer.single single

/-- The neighbor over an edge is the first one in the network of its local interface. -/
theorem neighborOver?_eq_some_iff (isConcrete : edge.abstract = false) :
    neighborOver? device edge = some neighbor ↔ IsFirstPeerOn device edge.near neighbor := by
  rw [neighborOver?, IsFirstPeerOn, isConcrete, Interface.network?]
  cases hasAddress : edge.near.address with
  | none =>
      constructor
      · intro found
        cases found
      · intro hasFirst
        obtain ⟨process, _, isFirst, _⟩ := hasFirst
        obtain ⟨address, isAddress, _⟩ := isFirst.connected
        rw [hasAddress] at isAddress
        cases isAddress
  | some address =>
      simp only [Option.map_some, externalNeighbors]
      cases device.bgp with
      | none => simp
      | some process =>
          simp only [List.find?_filter, Option.some.injEq, exists_eq_left']
          apply find?_eq_some_iff_isFirst
          intro other _
          rw [decide_eq_true_iff, ← Bool.and_eq_true]
          exact isPeerOn_iff hasAddress

/-- What the sessions over the edges of devices are. -/
structure FollowFirstPeers (devices : Table String Device) (edges : Table String (List Edge))
    (sessions : EdgeMap BgpNeighbor) : Prop where
  /-- A listed edge carries the session of the first peer on its network. -/
  first : ∀ router, ∀ edge ∈ (edges.get? router).getD [], ∀ neighbor,
    sessions.get? edge.key = some neighbor ↔
      ∃ device, devices.get? edge.router = some device ∧ IsFirstPeerOn device edge.near neighbor
  /-- A listed edge carries a session exactly if there is a peer on its network. -/
  carries : ∀ router, ∀ edge ∈ (edges.get? router).getD [],
    (sessions.contains edge.key = true ↔
      ∃ device process, devices.get? edge.router = some device ∧ device.bgp = some process ∧
        ∃ neighbor ∈ process.neighbors.values, IsPeerOn edge.near neighbor)
  /-- Nothing but a listed edge carries a session, and no abstract edge does. -/
  listed : ∀ session ∈ sessions.entries,
    session.1 ∈ (edges.get? session.1.router).getD [] ∧ session.1.abstract = false
  /-- An edge that carries a session has the key of a listed edge. -/
  known : ∀ key, sessions.contains key = true →
    ∃ edge ∈ (edges.get? key.router).getD [], edge.key = key ∧ edge.abstract = false

/-- A session runs over a listed edge exactly if the device has a neighbor in the network of the
local interface, and it is with the first such neighbor. -/
theorem mem_entries_resolve_iff (named : WellNamed devices) :
    (edge, neighbor) ∈ (resolve devices (Topology.infer devices adjacency).edges).entries ↔
      ∃ device, devices.get? edge.router = some device ∧
        edge ∈ ((Topology.infer devices adjacency).edges.get? edge.router).getD [] ∧
          IsFirstPeerOn device edge.near neighbor := by
  rw [resolve, EdgeMap.mem_entries_ofList (consistent_found named), mem_found_iff]
  constructor
  · intro isFound
    obtain ⟨router, device, isDevice, isListed, isFirst⟩ := isFound
    have isConcrete := Topology.concrete_of_listed isListed
    rw [Topology.router_of_listed isListed]
    exact ⟨device, isDevice, isListed, (neighborOver?_eq_some_iff isConcrete).1 isFirst⟩
  · intro hasFirst
    obtain ⟨device, isDevice, isListed, isFirst⟩ := hasFirst
    have isConcrete := Topology.concrete_of_listed isListed
    exact ⟨edge.router, device, isDevice, isListed,
      (neighborOver?_eq_some_iff isConcrete).2 isFirst⟩

theorem get?_resolve_iff (named : WellNamed devices)
    (isListed : edge ∈ ((Topology.infer devices adjacency).edges.get? router).getD []) :
    (resolve devices (Topology.infer devices adjacency).edges).get? edge.key = some neighbor ↔
      ∃ device, devices.get? edge.router = some device ∧
        IsFirstPeerOn device edge.near neighbor := by
  have keyed : (resolve devices (Topology.infer devices adjacency).edges).Keyed :=
    EdgeMap.keyed_ofList _
  rw [keyed.get?_eq_some_iff]
  constructor
  · intro isFound
    obtain ⟨other, isEntry, sameKey⟩ := isFound
    obtain ⟨device, isDevice, isOther, isFirst⟩ := (mem_entries_resolve_iff named).1 isEntry
    rw [← Topology.eq_of_listed named isOther isListed sameKey]
    exact ⟨device, isDevice, isFirst⟩
  · intro hasFirst
    obtain ⟨device, isDevice, isFirst⟩ := hasFirst
    have isOwn : edge ∈ ((Topology.infer devices adjacency).edges.get? edge.router).getD [] := by
      rw [Topology.router_of_listed isListed]
      exact isListed
    exact ⟨edge, (mem_entries_resolve_iff named).2 ⟨device, isDevice, isOwn, isFirst⟩, rfl⟩

/-- Over the inferred edges, every session is the one with the first external peer on the network
of a listed edge. Whatever versions are mixed, resolving does not fail. -/
theorem resolve_followsFirstPeers (named : WellNamed devices) (adjacency : Adjacency) :
    FollowFirstPeers devices (Topology.infer devices adjacency).edges
      (resolve devices (Topology.infer devices adjacency).edges) := by
  constructor
  case first =>
    intro router edge isListed neighbor
    exact get?_resolve_iff named isListed
  case carries =>
    intro router edge isListed
    rw [EdgeMap.contains, Option.isSome_iff_exists]
    simp only [get?_resolve_iff named isListed, IsFirstPeerOn, ← exists_isFirst_iff]
    constructor
    · intro hasFirst
      obtain ⟨neighbor, device, isDevice, process, isProcess, isFirst⟩ := hasFirst
      exact ⟨device, process, isDevice, isProcess, neighbor, isFirst⟩
    · intro hasPeer
      obtain ⟨device, process, isDevice, isProcess, neighbor, isFirst⟩ := hasPeer
      exact ⟨neighbor, device, isDevice, process, isProcess, isFirst⟩
  case listed =>
    intro session isSession
    obtain ⟨device, _, isListed, _⟩ := (mem_entries_resolve_iff named).1 isSession
    exact ⟨isListed, Topology.concrete_of_listed isListed⟩
  case known =>
    intro key carriesSession
    have keyed : (resolve devices (Topology.infer devices adjacency).edges).Keyed :=
      EdgeMap.keyed_ofList _
    rw [EdgeMap.contains, Option.isSome_iff_exists] at carriesSession
    obtain ⟨neighbor, isFound⟩ := carriesSession
    obtain ⟨edge, isEntry, isKey⟩ := keyed.get?_eq_some_iff.1 isFound
    obtain ⟨device, _, isListed, _⟩ := (mem_entries_resolve_iff named).1 isEntry
    have isRouter : edge.router = key.router := congrArg EdgeKey.router isKey
    rw [isRouter] at isListed
    exact ⟨edge, isListed, isKey, Topology.concrete_of_listed isListed⟩

/-- A device with peers of both versions, and with a range and a peer of its own system in front
of them. Two peers are on the networks of two interfaces, which overlap. -/
def mixedPeers : Value :=
  .map [
    (.text "devices", .map [
      (.text "a", .map [
        (.text "interfaces", .map [
          (.text "eth0", .map [(.text "prefix", .text "10.0.0.1/24")]),
          (.text "eth1", .map [(.text "prefix", .text "fd00::1/64")]),
          (.text "eth2", .map [(.text "prefix", .text "10.0.0.9/25")])]),
        (.text "bgp", .map [(.text "neighbors", .list [
          .map [(.text "prefix", .text "10.0.0.0/28"), (.text "local_as", .int 65001)],
          .map [(.text "prefix", .text "10.0.0.2/32"), (.text "local_as", .int 65001),
            (.text "remote_as", .int 65001)],
          .map [(.text "prefix", .text "fd00::2/128"), (.text "local_as", .int 65001)],
          .map [(.text "prefix", .text "10.0.0.3/32"), (.text "local_as", .int 65001)],
          .map [(.text "prefix", .text "10.0.0.4/32"), (.text "local_as", .int 65001)]])])]),
      (.text "b", .map [(.text "interfaces", .map [
        (.text "eth0", .map [(.text "prefix", .text "10.0.0.3/24")]),
        (.text "eth1", .map [(.text "prefix", .text "10.0.0.4/24")]),
        (.text "eth2", .map [(.text "prefix", .text "fd00::2/64")])])])]),
    (.text "links", .list [
      .list [.text "a:eth0", .text "b:eth0"], .list [.text "a:eth1", .text "b:eth2"],
      .list [.text "a:eth2", .text "b:eth1"]])]

/-- Neighbors of both versions of addresses, several of them in the network of one interface. -/
theorem resolve_followsFirstPeers_mixedPeers :
    ∃ snapshot, Snapshot.read Snapshot.standardPath mixedPeers = .ok snapshot ∧
      WellNamed snapshot.devices ∧
      (resolve snapshot.devices
          (Topology.infer snapshot.devices snapshot.adjacency).edges).entries.map
        (fun session => (session.1.key.text, session.2.peers.text)) =
          [("a,eth0 --> b,eth0", "10.0.0.3/32"), ("a,eth1 --> b,eth2", "fd00::2/128"),
            ("a,eth2 --> b,eth1", "10.0.0.3/32")] ∧
      FollowFirstPeers snapshot.devices
        (Topology.infer snapshot.devices snapshot.adjacency).edges
        (resolve snapshot.devices
          (Topology.infer snapshot.devices snapshot.adjacency).edges) := by
  have evaluated : (Snapshot.read Snapshot.standardPath mixedPeers).toOption.any (fun snapshot =>
      decide ((resolve snapshot.devices
          (Topology.infer snapshot.devices snapshot.adjacency).edges).entries.map
        (fun session => (session.1.key.text, session.2.peers.text)) =
          [("a,eth0 --> b,eth0", "10.0.0.3/32"), ("a,eth1 --> b,eth2", "fd00::2/128"),
            ("a,eth2 --> b,eth1", "10.0.0.3/32")])) = true := by
    decide +kernel
  obtain ⟨snapshot, isRead, evaluated⟩ := exists_ok_of_any evaluated
  have named := Snapshot.wellNamed_of_read isRead
  exact ⟨snapshot, isRead, named, of_decide_eq_true evaluated,
    resolve_followsFirstPeers named snapshot.adjacency⟩

end RoutingPlane.ExternalSessions
