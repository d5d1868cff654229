import RoutingPlane.Address.Basic
import RoutingPlane.Text.Split
import RoutingPlane.Value.Conversion

/-!
Reading addresses, networks and interface addresses from text, from whole
numbers, from bytes and from tuples. A whole number is an address by its bits: of
version 4 if it is small enough, else of version 6; bytes are one by their number.
A length may follow the address; in version 4 it may also be written as the mask
of the network bits or of the other bits. A tuple has the address and the length
as its items.
-/

namespace RoutingPlane

open RoutingPlane.Text

namespace Address

def decimalValue (digits : List Char) : Nat :=
  digits.foldl (fun value c => 10 * value + (c.toNat - 48)) 0

def isDecimal (text : List Char) : Bool :=
  !text.isEmpty && text.all Char.isDigit

/-- Reads a byte: at most three digits, and no zero in front of another digit. -/
def readByte? (text : List Char) : Option Nat :=
  if isDecimal text && decide (text.length ≤ 3) && (decide (text = ['0']) || text.head? != some '0')
    && decide (decimalValue text ≤ 255) then
    some (decimalValue text)
  else none

def readV4? (text : List Char) : Option (BitVec 32) :=
  match (split '.' text).mapM readByte? with
  | some [a, b, c, d] => some (BitVec.ofNat 32 (((a * 256 + b) * 256 + c) * 256 + d))
  | _ => none

def hexValue? (c : Char) : Option Nat :=
  if c.isDigit then some (c.toNat - 48)
  else if 'a' ≤ c ∧ c ≤ 'f' then some (c.toNat - 87)
  else if 'A' ≤ c ∧ c ≤ 'F' then some (c.toNat - 55)
  else none

def readGroup? (text : List Char) : Option Nat :=
  if text.isEmpty || decide (4 < text.length) then none
  else (text.mapM hexValue?).map fun values => values.foldl (fun sum value => 16 * sum + value) 0

/-- Reads groups from separated parts. The last part may be an address of
version 4, which stands for two groups. -/
def readParts? (mayEndInV4 : Bool) : List (List Char) → Option (List Nat)
  | [] => some []
  | [last] =>
      if mayEndInV4 && last.contains '.' then
        (readV4? last).map fun bits => [bits.toNat / 65536, bits.toNat % 65536]
      else (readGroup? last).map fun value => [value]
  | part :: rest => do
      let value ← readGroup? part
      let values ← readParts? mayEndInV4 rest
      return value :: values

def readGroups? (mayEndInV4 : Bool) (text : List Char) : Option (List Nat) :=
  if text.isEmpty then some [] else readParts? mayEndInV4 (split ':' text)

def bitsOfGroups (values : List Nat) : BitVec 128 :=
  BitVec.ofNat 128 (values.foldl (fun sum value => 65536 * sum + value) 0)

/-- Reads the bits of an address of version 6: eight groups, or fewer with a
double separator in the place of the missing ones. -/
def readV6? (text : List Char) : Option (BitVec 128) :=
  match cutDouble? ':' text with
  | none => do
      let values ← readGroups? true text
      if values.length = 8 then some (bitsOfGroups values) else none
  | some (before, after) => do
      let high ← readGroups? false before
      let low ← readGroups? true after
      if high.length + low.length < 8 then
        some (bitsOfGroups (high ++ List.replicate (8 - high.length - low.length) 0 ++ low))
      else none

def readZone? (text : List Char) : Option Zone :=
  if valid : isZoneName text = true then some ⟨String.ofList text, by simpa using valid⟩ else none

def readZonedV6? (text : List Char) : Option Address :=
  match cut? '%' text with
  | none => (readV6? text).map fun bits => v6 bits none
  | some (before, after) => do
      let zone ← readZone? after
      let bits ← readV6? before
      return v6 bits (some zone)

def ofText? (text : List Char) : Option Address :=
  if text.contains '/' then none
  else
    match readV4? text with
    | some bits => some (v4 bits)
    | none => readZonedV6? text

def ofInt? (n : Int) : Option Address :=
  if n < 0 then none
  else if n < Int.ofNat (1 <<< 32) then some (v4 (BitVec.ofNat 32 n.toNat))
  else if n < Int.ofNat (1 <<< 128) then some (v6 (BitVec.ofNat 128 n.toNat) none)
  else none

/-- The length of the mask with the given bits. -/
def maskLength? (bits : BitVec 32) : Option Nat :=
  (List.range 33).find? fun length => leadingOnes 32 length == bits

def readLength? (version : IpVersion) (text : List Char) : Option Nat :=
  if isDecimal text then
    if text.length ≤ Decimal.maxDigits ∧ decimalValue text ≤ version.width then some (decimalValue text) else none
  else
    match version with
    | .six => none
    | .four => do
        let bits ← readV4? text
        match maskLength? bits with
        | some length => some length
        | none => maskLength? (~~~ bits)

end Address

namespace InterfaceAddress

/-- An address with a length, if the length is not too large for it. -/
def ofParts? (address : Address) (length : Nat) : Option InterfaceAddress :=
  if fits : length ≤ address.width then some ⟨address, length, fits⟩ else none

/-- Reads an address with a length from a text; without a length, all bits count. -/
def ofText? (text : List Char) : Option InterfaceAddress :=
  match split '/' text with
  | [host] => do
      let address ← Address.ofText? host
      ofParts? address address.width
  | [host, mask] => do
      let address ← Address.ofText? host
      let length ← Address.readLength? address.version mask
      ofParts? address length
  | _ => none

end InterfaceAddress

/-- The address whose bits are given as bytes, the leading one first. -/
def Address.ofBytes? (content : List UInt8) : Option Address :=
  let bits := content.foldl (fun sum byte => 256 * sum + byte.toNat) 0
  if content.length = 4 then some (v4 (BitVec.ofNat 32 bits))
  else if content.length = 16 then some (v6 (BitVec.ofNat 128 bits) none)
  else none

/-- Reads an address from a value that holds its bits: a whole number, a truth
value or bytes. -/
def Address.ofBits? : Value → Option Address
  | .int n => ofInt? n
  | .bool b => some (v4 (if b then 1 else 0))
  | .bytes content => ofBytes? content
  | _ => none

/-- The addresses that an item of a tuple stands for, in the order in which they are
tried: a small whole number is an address of either version. -/
def Address.candidates (item : Value) : List Address :=
  match item with
  | .text s => (ofText? s.toList).toList
  | .bytes content => (ofBytes? content).toList
  | item =>
      match ofBits? item with
      | some (v4 bits) => [v4 bits, v6 (bits.setWidth 128) none]
      | found => found.toList

/-- Reads the length in a tuple. It is told like the one that follows an address in a text, by a
whole number, or by the digits of one as bytes. Other bytes are split as a text is, which they are
not, unless there are none of them. -/
def Address.lengthOf? (version : IpVersion) (item : Value) : Except ValueFault (Option Nat) :=
  match item with
  | .text s => .ok (readLength? version s.toList)
  | .bytes content =>
      let digits := content.map fun byte => Char.ofNat byte.toNat
      let found := (readLength? version digits).filter fun _ => isDecimal digits
      if version = .four ∧ found = none ∧ content ≠ [] then .error (.wrongKind .length)
      else .ok found
  | item =>
      match item.whole? with
      | some n => .ok (if 0 ≤ n ∧ n ≤ version.width then some n.toNat else none)
      | none => .error (.wrongKind .length)

/-- The first of some addresses with the length that a value tells for its version. -/
def InterfaceAddress.withLength? (length : Value) :
    List Address → Except ValueFault (Option InterfaceAddress)
  | [] => .ok none
  | address :: rest => do
      match ← Address.lengthOf? address.version length with
      | some found => return ofParts? address found
      | none => withLength? length rest

/-- Reads an interface address from the items of a tuple: an address, and a length
unless all bits count. -/
def InterfaceAddress.ofItems? : List Value → Except ValueFault (Option InterfaceAddress)
  | [] => .error .noItem
  | [item] =>
      .ok ((Address.candidates item).head?.bind fun address => ofParts? address address.width)
  | [item, length] => withLength? length (Address.candidates item)
  | _ => .error .surplusItem

/-- Reads an interface address from a value. Without a length, all bits count. -/
def InterfaceAddress.ofValue? (value : Value) : Except ValueFault (Option InterfaceAddress) :=
  match value.opened with
  | .tuple items => ofItems? items
  | .text s => .ok (ofText? s.toList)
  | value => .ok ((Address.ofBits? value).bind fun address => ofParts? address address.width)

/-- Reads an interface address that stands for something else, or for itself. -/
def InterfaceAddress.readAs (use : AddressUse) (value : Value) :
    Except ValueFault InterfaceAddress := do
  match ← ofValue? value with
  | some interface => return interface
  | none => .error (value.refused (.notAddress use))

def InterfaceAddress.read (value : Value) : Except ValueFault InterfaceAddress :=
  readAs .interface value

def Network.read (value : Value) : Except ValueFault Network := do
  return (← InterfaceAddress.readAs .network value).network

def Address.read (value : Value) : Except ValueFault Address :=
  let found :=
    match value with
    | .text s => ofText? s.toList
    | value => ofBits? value
  match found with
  | some address => .ok address
  | none => .error (value.refused (.notAddress .address))

end RoutingPlane
