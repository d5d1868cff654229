/-!
Internet addresses of versions 4 and 6, networks and interface addresses. A
network is an address together with the number of leading bits that its members
share; the address of a network has no other bits set. An address of version 6
may name the zone in which it is valid.
-/

namespace RoutingPlane

inductive IpVersion where
  | four
  | six
  deriving DecidableEq, Repr

def IpVersion.number : IpVersion → Nat
  | four => 4
  | six => 6

def IpVersion.width : IpVersion → Nat
  | four => 32
  | six => 128

/-- Whether a text can name a zone: it is not empty and holds neither the mark
in front of a zone nor the one in front of a length. -/
def isZoneName (name : List Char) : Bool :=
  !name.isEmpty && !name.contains '%' && !name.contains '/'

structure Zone where
  name : String
  valid : isZoneName name.toList = true
  deriving DecidableEq, Repr

inductive Address where
  | v4 (bits : BitVec 32)
  | v6 (bits : BitVec 128) (zone : Option Zone)
  deriving DecidableEq, Repr

/-- The bits set in a mask of the given length: its leading ones. -/
def leadingOnes (width length : Nat) : BitVec width :=
  BitVec.allOnes width <<< (width - length)

namespace Address

def version : Address → IpVersion
  | v4 _ => .four
  | v6 _ _ => .six

def width (address : Address) : Nat :=
  address.version.width

def withoutZone : Address → Address
  | v4 bits => v4 bits
  | v6 bits _ => v6 bits none

/-- The address with all bits but its leading ones cleared. It keeps its zone
only if no bit had to be cleared. -/
def leading (length : Nat) : Address → Address
  | v4 bits => v4 (bits &&& leadingOnes 32 length)
  | v6 bits zone =>
      if bits &&& leadingOnes 128 length = bits then v6 bits zone
      else v6 (bits &&& leadingOnes 128 length) none

@[simp]
theorem version_leading (length : Nat) (address : Address) :
    (address.leading length).version = address.version := by
  cases address with
  | v4 bits => rfl
  | v6 bits zone =>
      simp only [leading]
      split <;> rfl

@[simp]
theorem width_leading (length : Nat) (address : Address) :
    (address.leading length).width = address.width := by
  simp [width]

/-- Clearing bits a second time changes nothing. -/
@[simp]
theorem leading_leading (length : Nat) (address : Address) :
    (address.leading length).leading length = address.leading length := by
  cases address with
  | v4 bits => simp [leading, BitVec.and_assoc]
  | v6 bits zone =>
      by_cases whole : bits &&& leadingOnes 128 length = bits
      · simp [leading, whole]
      · simp [leading, whole, BitVec.and_assoc]

end Address

/-- A network: its address and the number of leading bits that all its members
share. -/
structure Network where
  base : Address
  length : Nat
  length_le : length ≤ base.width
  aligned : base.leading length = base
  deriving DecidableEq, Repr

/-- The address of an interface together with the length of its network. -/
structure InterfaceAddress where
  address : Address
  length : Nat
  length_le : length ≤ address.width
  deriving DecidableEq, Repr

namespace Network

/-- The network of the given length that holds an address. -/
def containing (address : Address) (length : Nat) (length_le : length ≤ address.width) :
    Network where
  base := address.leading length
  length := length
  length_le := by simpa using length_le
  aligned := by simp

def version (network : Network) : IpVersion :=
  network.base.version

/-- Whether an address belongs to a network. Its zone does not matter. -/
def contains (network : Network) : Address → Bool
  | .v4 bits =>
      match network.base with
      | .v4 base => decide (bits &&& leadingOnes 32 network.length = base)
      | .v6 _ _ => false
  | .v6 bits _ =>
      match network.base with
      | .v4 _ => false
      | .v6 base _ => decide (bits &&& leadingOnes 128 network.length = base)

/-- The members of a network have its version. -/
theorem version_eq_of_contains {network : Network} {address : Address}
    (holds : network.contains address = true) : network.version = address.version := by
  cases address with
  | v4 bits =>
      cases base : network.base with
      | v4 other => simp [version, base, Address.version]
      | v6 other zone => simp [contains, base] at holds
  | v6 bits zone =>
      cases base : network.base with
      | v4 other => simp [contains, base] at holds
      | v6 other otherZone => simp [version, base, Address.version]

def isHost (network : Network) : Bool :=
  decide (network.length = network.base.width)

end Network

namespace InterfaceAddress

def network (interface : InterfaceAddress) : Network :=
  Network.containing interface.address interface.length interface.length_le

def host (interface : InterfaceAddress) : Address :=
  interface.address.withoutZone

end InterfaceAddress

end RoutingPlane
