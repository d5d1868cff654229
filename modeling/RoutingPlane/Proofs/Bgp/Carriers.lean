import RoutingPlane.Device.Reader
import RoutingPlane.Proofs.Bgp.Resolution

/-!
The made up interfaces of sessions inside autonomous systems. The address of such an interface
goes through text: it is read from the text of the network of a neighbor statement. Nothing is
lost on the way, whatever the version and the length of the network are, so the interface is
connected to exactly the peers of the statement, and its address is their first one.
-/

namespace RoutingPlane

/-! ## The first address of a network -/

def Address.number : Address → Nat
  | v4 bits => bits.toNat
  | v6 bits _ => bits.toNat

/-- The first address of a network is the member with the smallest number. As an address that is
counted in a network, it names no zone. -/
structure Network.IsFirst (network : Network) (address : Address) : Prop where
  zoneless : address.withoutZone = address
  member : network.contains address = true
  least : ∀ other, network.contains other = true → address.number ≤ other.number

/-- A network has a single first address. -/
theorem Network.IsFirst.unique {network : Network} {address other : Address}
    (isFirst : network.IsFirst address) (alsoFirst : network.IsFirst other) : address = other := by
  have sameVersion : address.version = other.version :=
    (version_eq_of_contains isFirst.member).symm.trans (version_eq_of_contains alsoFirst.member)
  have sameNumber : address.number = other.number :=
    Nat.le_antisymm (isFirst.least other alsoFirst.member) (alsoFirst.least address isFirst.member)
  have zoneless := isFirst.zoneless
  have otherZoneless := alsoFirst.zoneless
  cases address with
  | v4 bits =>
      cases other with
      | v4 otherBits => rw [BitVec.eq_of_toNat_eq sameNumber]
      | v6 otherBits otherZone => cases sameVersion
  | v6 bits zone =>
      cases other with
      | v4 otherBits => cases sameVersion
      | v6 otherBits otherZone =>
          rw [← zoneless, ← otherZoneless, Address.withoutZone, Address.withoutZone,
            BitVec.eq_of_toNat_eq sameNumber]

/-- The address of a network is its first one: it is what is left of the bits of every member, and
clearing bits makes no number larger. -/
theorem Network.isFirst_base (network : Network) :
    network.IsFirst network.base.withoutZone := by
  have aligned := network.aligned
  cases isBase : network.base with
  | v4 base =>
      rw [isBase, Address.leading, Address.v4.injEq] at aligned
      refine ⟨rfl, by simp [Address.withoutZone, contains, isBase, aligned], ?_⟩
      intro other isMember
      cases other with
      | v4 bits =>
          have shared : bits &&& leadingOnes 32 network.length = base := by
            simpa [contains, isBase] using isMember
          simp only [Address.withoutZone, Address.number, ← shared, BitVec.toNat_and]
          exact Nat.and_le_left
      | v6 bits zone => simp [contains, isBase] at isMember
  | v6 base zone =>
      have aligned : base &&& leadingOnes 128 network.length = base := by
        rw [isBase, Address.leading] at aligned
        split at aligned
        · assumption
        · exact (Address.v6.inj aligned).1
      refine ⟨rfl, by simp [Address.withoutZone, contains, isBase, aligned], ?_⟩
      intro other isMember
      cases other with
      | v4 bits => simp [contains, isBase] at isMember
      | v6 bits otherZone =>
          have shared : bits &&& leadingOnes 128 network.length = base := by
            simpa [contains, isBase] using isMember
          simp only [Address.withoutZone, Address.number, ← shared, BitVec.toNat_and]
          exact Nat.and_le_left

/-! ## Interfaces that carry sessions -/

/-- A neighbor statement can have any network as its peers. -/
theorem BgpNeighbor.exists_read_peers (network : Network) :
    ∃ value neighbor, BgpNeighbor.read value = .ok neighbor ∧ neighbor.peers = network := by
  refine ⟨.map [(.text "prefix", .text network.text)], { peers := network }, ?_, rfl⟩
  refine bind_eq_ok_iff.2 ⟨.text network.text, rfl, ?_⟩
  exact bind_eq_ok_iff.2 ⟨network, Network.read_text network, rfl⟩

/-- For every neighbor statement, and there is one for every network, the interface that carries
its session is made up. It is abstract, it is connected to exactly the peers of the statement, and
its address is the first one among them. -/
theorem sessionInterface_connects :
    (∀ network : Network, ∃ value neighbor,
      BgpNeighbor.read value = .ok neighbor ∧ neighbor.peers = network) ∧
    ∀ (neighbor : BgpNeighbor) (peer : String) (options : Options), ∃ interface address,
      sessionInterface neighbor peer options = .ok interface ∧
        interface.isAbstract = true ∧
        interface.network? = some neighbor.peers ∧
        interface.host? = some address ∧ neighbor.peers.IsFirst address := by
  refine ⟨BgpNeighbor.exists_read_peers, fun neighbor peer options => ?_⟩
  have connected : (InternalSessions.carrier options (some neighbor) peer).network? =
      some neighbor.peers :=
    congrArg some (InterfaceAddress.network_base neighbor.peers)
  exact ⟨_, _, InternalSessions.sessionInterface_eq neighbor peer options, rfl, connected, rfl,
    neighbor.peers.isFirst_base⟩

end RoutingPlane
