import RoutingPlane.Decimal.Numeral
import RoutingPlane.Text.Quoted

/-!
The reasons for which an untyped value cannot be read as what it should stand
for. Some of them have a text that depends on the value alone; a value of a
wrong kind is reported without one.
-/

namespace RoutingPlane

inductive Use where
  /-- Asking for the fields of a mapping that may lack them. -/
  | fields
  /-- Changing the letters of a text. -/
  | letters
  /-- Asking for a field that must be there. -/
  | lookup
  /-- Going through the elements. -/
  | elements
  /-- Asking whether something is an element. -/
  | membership
  /-- Reading a number. -/
  | number
  /-- Serving as a key. -/
  | key
  /-- Standing in order with other values. -/
  | order
  /-- Telling the length of a network. -/
  | length
  deriving DecidableEq, Repr

inductive AddressUse where
  | address
  | interface
  | network
  deriving DecidableEq, Repr

/-- The reasons for which a value cannot be read. The texts that they carry are
the values as shown in a message. -/
inductive ValueFault where
  | notInteger (shown : String)
  | notFloat (shown : String)
  /-- A numeral has too many digits to be read. -/
  | longNumeral (digits : Nat)
  /-- A whole number has too many digits to be written. -/
  | longText
  | undefinedInteger
  | infiniteInteger
  | hugeInteger
  | notAddress (use : AddressUse) (shown : String)
  | notRouteSource (shown : String)
  | notAction (shown : String)
  | missingField (name : String)
  /-- A tuple has no item in the place of an address. -/
  | noItem
  /-- A tuple has more items than an address and a length. -/
  | surplusItem
  | wrongKind (use : Use)
  /-- Collections lie inside each other too deeply, or without an end. -/
  | endless
  deriving DecidableEq, Repr

def AddressUse.word : AddressUse → String
  | address => "address"
  | interface => "interface"
  | network => "network"

/-- How much of a value is told that is no whole number. -/
def maxToldLength : Nat := 200

def longNumberText (counted : String) : String :=
  "Exceeds the limit (" ++ toString Decimal.maxDigits ++
    " digits) for integer string conversion" ++ counted ++
    "; use sys.set_int_max_str_digits() to increase the limit"

def ValueFault.message? : ValueFault → Option String
  | notInteger shown =>
      some ("invalid literal for int() with base 10: " ++
        String.ofList (shown.toList.take maxToldLength))
  | notFloat shown => some ("could not convert string to float: " ++ shown)
  | longNumeral digits => some (longNumberText (": value has " ++ toString digits ++ " digits"))
  | longText => some (longNumberText "")
  | undefinedInteger => some "cannot convert float NaN to integer"
  | infiniteInteger => some "cannot convert float infinity to integer"
  | hugeInteger => some "int too large to convert to float"
  | notAddress use shown =>
      some (shown ++ " does not appear to be an IPv4 or IPv6 " ++ use.word)
  | notRouteSource shown => some (shown ++ " is not a valid RoutingProtocol")
  | notAction shown => some (shown ++ " is not a valid StaticStatement")
  | missingField name => some (Text.quoted name)
  | noItem => some "tuple index out of range"
  | surplusItem => some "too many values to unpack (expected 2)"
  | wrongKind _ => none
  | endless => none

/-- Whether no reader of a document accounts for a fault: a number or an item is
out of range, or a value is too deep. -/
def ValueFault.escapes : ValueFault → Bool
  | infiniteInteger => true
  | hugeInteger => true
  | noItem => true
  | endless => true
  | _ => false

end RoutingPlane
