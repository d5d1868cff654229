import RoutingPlane.Text.Lowercase
import RoutingPlane.Text.Split
import RoutingPlane.Value.Fault
import RoutingPlane.Value.Shown

/-!
Reading untyped values as numbers, as mappings, as sequences and as texts.
-/

namespace RoutingPlane.Value

open RoutingPlane.Decimal

/-! ## Texts -/

/-- How deeply collections may lie inside each other in a value that is written. -/
def maxShownDepth : Nat := 984

/-- The text of a value that is written in some way. -/
def written (write? : Value → Option String) (value : Value) : Except ValueFault String :=
  if maxShownDepth < value.depth then .error .endless
  else
    match write? value with
    | some shown => .ok shown
    | none => .error .longText

def toText (value : Value) : Except ValueFault String :=
  value.written shown?

/-- The fault of a value that a message tells. -/
def refused (value : Value) (fault : String → ValueFault) : ValueFault :=
  match value.written quoted? with
  | .ok shown => fault shown
  | .error unwritten => unwritten

/-! ## Numbers -/

def ofNumeral (value : Value) (outcome : Except NumeralFault Int) : Except ValueFault Int :=
  match outcome with
  | .ok n => .ok n
  | .error .malformed => .error (value.refused .notInteger)
  | .error (.tooLong digits) => .error (.longNumeral digits)

/-- Reads a whole number: a fraction is cut off, a numeral is read. -/
def toInteger : Value → Except ValueFault Int
  | int n => .ok n
  | bool b => .ok (if b then 1 else 0)
  | float x =>
      match Binary64.ofFloat x with
      | .finite value => .ok value.truncate
      | .infinite _ => .error .infiniteInteger
      | .undefined => .error .undefinedInteger
  | undefined _ => .error .undefinedInteger
  | text s => ofNumeral (text s) (readInt 10 s)
  | bytes content => ofNumeral (bytes content) (readChars 10 (byteNumeral content))
  | _ => .error (.wrongKind .number)

def notANumber : Float := 0.0 / 0.0

def toFloat : Value → Except ValueFault Float
  | float x => .ok x
  | undefined _ => .ok notANumber
  | bool b => .ok (if b then 1.0 else 0.0)
  | int n =>
      match ofInt? n with
      | some x => .ok x
      | none => .error .hugeInteger
  | text s =>
      match readFloat? s with
      | some x => .ok x
      | none => .error (.notFloat (Text.quoted s))
  | bytes content =>
      match readFloatChars? (byteNumeral content) with
      | some x => .ok x
      | none => .error (.notFloat (Text.quotedBytes content))
  | _ => .error (.wrongKind .number)

def whole? : Value → Option Int
  | int n => some n
  | bool b => some (if b then 1 else 0)
  | _ => none

def isNumeric : Value → Bool
  | bool _ => true
  | int _ => true
  | float _ => true
  | undefined _ => true
  | _ => false

/-! ## Collections -/

def fields (value : Value) : Except ValueFault (List (Value × Value)) :=
  match value.opened with
  | map entries => .ok entries
  | _ => .error (.wrongKind .fields)

/-- The entries of a mapping, none for a value that counts as false. -/
def fieldsOrNone (value : Value) : Except ValueFault (List (Value × Value)) :=
  if value.truthy then value.fields else .ok []

/-- The elements of a value that is no knot: the items of a list, the members of a
set, the characters of a text, the numbers of bytes and the keys of a mapping. -/
def ownElements : Value → Except ValueFault (List Value)
  | list items => .ok items
  | tuple items => .ok items
  | set members => .ok members
  | text s => .ok (s.toList.map fun c => text (String.singleton c))
  | bytes content => .ok (content.map fun byte => int byte.toNat)
  | map entries => .ok (entries.map Prod.fst)
  | _ => .error (.wrongKind .elements)

def elements (value : Value) : Except ValueFault (List Value) :=
  value.opened.ownElements

def elementsOrNone (value : Value) : Except ValueFault (List Value) :=
  if value.truthy then value.elements else .ok []

/-- The lower form of a text. Bytes have one too, but it is no text. -/
def lowered : Value → Except ValueFault String
  | text s => .ok (Text.lowercase s)
  | bytes _ => .error (.wrongKind .membership)
  | _ => .error (.wrongKind .letters)

def field (name : String) (value : Value) : Except ValueFault Value :=
  match value.opened with
  | map entries =>
      match fieldIn? name entries with
      | some value => .ok value
      | none => .error (.missingField name)
  | _ => .error (.wrongKind .lookup)

/-- Whether a name is found in a value: as a key of a mapping, as an item or a
member, or as a part of a text. -/
def holds (name : String) (value : Value) : Except ValueFault Bool :=
  match value.opened with
  | map entries => .ok (fieldIn? name entries).isSome
  | list items => .ok (items.any (isText name))
  | tuple items => .ok (items.any (isText name))
  | set members => .ok (members.any (isText name))
  | text s => .ok (Text.occurs name s)
  | _ => .error (.wrongKind .membership)

/-! ## Sorting -/

/-- Whether a whole number is below a double precision number. -/
def intBelowFloat (n : Int) (x : Float) : Bool :=
  match Binary64.ofFloat x with
  | .finite value => decide (n < -(Dyadic.floor { value with negative := !value.negative }))
  | .infinite negative => !negative
  | .undefined => false

/-- Whether a double precision number is below a whole number. -/
def floatBelowInt (x : Float) (n : Int) : Bool :=
  match Binary64.ofFloat x with
  | .finite value => decide (value.floor < n)
  | .infinite negative => negative
  | .undefined => false

def numberBelow : Value → Value → Bool
  | float x, float y => x < y
  | float x, other => other.whole?.any (floatBelowInt x)
  | value, float y => value.whole?.any fun n => intBelowFloat n y
  | value, other => value.whole?.any fun m => other.whole?.any fun n => decide (m < n)

def bytesBelow : List UInt8 → List UInt8 → Bool
  | [], others => !others.isEmpty
  | _ :: _, [] => false
  | byte :: rest, other :: others =>
      decide (byte < other) || (byte == other && bytesBelow rest others)

mutual

/-- Whether a value is below another one, if the two can be put in order: numbers
by their value, texts by code point, days and times by the calendar, and tuples
by the first items that differ. -/
def below? : Value → Value → Option Bool
  | text s, other =>
      match other with
      | text t => some (Text.comesBefore s t)
      | _ => none
  | bytes left, other =>
      match other with
      | bytes right => some (bytesBelow left right)
      | _ => none
  | date left, other =>
      match other with
      | date right => some (decide (left.number < right.number))
      | _ => none
  | moment left, other =>
      match other with
      | moment right =>
          if left.comparable right then some (decide (left.instant < right.instant)) else none
      | _ => none
  | tuple items, other =>
      match other with
      | tuple others => itemsBelow? items others
      | _ => none
  | value, other =>
      if value.isNumeric && other.isNumeric then some (numberBelow value other) else none

def itemsBelow? : List Value → List Value → Option Bool
  | [], others => some (!others.isEmpty)
  | _ :: _, [] => some false
  | item :: rest, other :: others =>
      if item.same other then itemsBelow? rest others else below? item other

end

/-- Whether any two of some values can be put in order. -/
def areComparable : List Value → Bool
  | [] => true
  | value :: rest => (rest.all fun other => (value.below? other).isSome) && areComparable rest

def sorted (values : List Value) : Except ValueFault (List Value) :=
  if areComparable values then
    .ok (values.mergeSort fun left right => !(right.below? left).getD false)
  else .error (.wrongKind .order)

end RoutingPlane.Value
