import RoutingPlane.Address.Basic
import RoutingPlane.Text.Split

/-!
The text of addresses, networks and interface addresses. Addresses of version 4
are four decimal numbers; addresses of version 6 are eight hexadecimal groups,
of which the first longest run of at least two zeros is left out.
-/

namespace RoutingPlane

open RoutingPlane.Text

namespace Address

/-- The four bytes of an address of version 4, the leading one first. -/
def bytes (bits : BitVec 32) : List Nat :=
  [24, 16, 8, 0].map fun shift => (bits.toNat >>> shift) % 256

/-- The eight groups of an address of version 6, the leading one first. -/
def groups (bits : BitVec 128) : List Nat :=
  [112, 96, 80, 64, 48, 32, 16, 0].map fun shift => (bits.toNat >>> shift) % 65536

/-- The number of zeros at the start of a list of groups. -/
def zeroRun (parts : List Nat) : Nat :=
  (parts.takeWhile fun part => part == 0).length

/-- The place and length of the first longest run of zeros, looked for from a
given place on. -/
def longestZeroRun (place : Nat) : List Nat → Nat × Nat
  | [] => (place, 0)
  | part :: rest =>
      let here := zeroRun (part :: rest)
      let later := longestZeroRun (place + 1) rest
      if later.2 ≤ here then (place, here) else later

def groupText (part : Nat) : List Char :=
  Nat.toDigits 16 part

def groupsText (parts : List Nat) : List Char :=
  let run := longestZeroRun 0 parts
  if run.2 < 2 then join ':' (parts.map groupText)
  else
    join ':' ((parts.take run.1).map groupText) ++
      ':' :: ':' :: join ':' ((parts.drop (run.1 + run.2)).map groupText)

def chars : Address → List Char
  | v4 bits => join '.' ((bytes bits).map (Nat.toDigits 10))
  | v6 bits none => groupsText (groups bits)
  | v6 bits (some zone) => groupsText (groups bits) ++ '%' :: zone.name.toList

def text (address : Address) : String :=
  String.ofList address.chars

end Address

def withLengthText (address : Address) (length : Nat) : String :=
  String.ofList (address.chars ++ '/' :: Nat.toDigits 10 length)

def Network.text (network : Network) : String :=
  withLengthText network.base network.length

def InterfaceAddress.text (interface : InterfaceAddress) : String :=
  withLengthText interface.address interface.length

example : (Address.v6 (BitVec.ofNat 128 0x20010db8000000000000000000010000) none).text =
    "2001:db8::1:0" := by decide +kernel

end RoutingPlane
