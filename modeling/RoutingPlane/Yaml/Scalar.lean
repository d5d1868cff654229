import RoutingPlane.Text.Base64
import RoutingPlane.Yaml.Plain

/-!
The value of a scalar. Its tag tells how its text is read, which fails if the
text has not the form that the tag demands.
-/

namespace RoutingPlane.Yaml.Scalar

open RoutingPlane.Decimal RoutingPlane.Text

/-! ## Numbers -/

/-- Splits the sign off the text of a number without underscores. There must be
a text, but nothing has to follow the sign. -/
def splitNumber (text : String) : Except DocumentFault (Bool × List Char) :=
  let digits := text.toList.filter (· ≠ '_')
  if digits.isEmpty then .error .emptyNumber else .ok (splitSign digits)

def readWhole (base : Nat) (digits : List Char) : Except DocumentFault Int :=
  (readInt base (String.ofList digits)).mapError fun _ => .noNumber

/-- Reads a whole number without a sign: the characters in front tell the base. -/
def readWholeSize (size : List Char) : Except DocumentFault Int :=
  match size with
  | [] => .error .emptyNumber
  | '0' :: 'b' :: digits => readWhole 2 digits
  | '0' :: 'x' :: digits => readWhole 16 digits
  | '0' :: digits => readWhole 8 ('0' :: digits)
  | size => do
      let places ← (split ':' size).mapM (readWhole 10)
      return places.foldl (fun sum place => 60 * sum + place) 0

def toInteger (text : String) : Except DocumentFault Int := do
  let (negative, size) ← splitNumber text
  let value ← readWholeSize size
  return if negative then -value else value

def placeValue (place : Nat) : Except DocumentFault Float :=
  match ofInt? (Nat.pow 60 place) with
  | some value => .ok value
  | none => .error .hugePlace

/-- The sum of places in base sixty, the lowest one first. -/
def sexagesimalSum (places : List Float) : Except DocumentFault Float :=
  places.zipIdx.foldlM (fun sum place => do return sum + place.1 * (← placeValue place.2)) 0.0

/-- Reads a number with a point without a sign and without the words for special
numbers. -/
def readDecimalSize (size : List Char) : Except DocumentFault Float := do
  let readPlace (place : List Char) : Except DocumentFault Float :=
    match readFloat? (String.ofList place) with
    | some value => .ok value
    | none => .error .noNumber
  if size.contains ':' then sexagesimalSum (← (split ':' size).mapM readPlace).reverse
  else readPlace size

/-- The number with a point that a text denotes. The undefined number in its own
spelling is always the same one; any other time it is the one of the scalar. -/
def toDecimal (occurrence : Nat) (text : String) : Except DocumentFault Value := do
  let (negative, size) ← splitNumber text
  let lowered := size.map Char.toLower
  if lowered = ".nan".toList then return .undefined 0
  let value ← if lowered = ".inf".toList then pure (1.0 / 0.0) else readDecimalSize lowered
  return Value.ofFloat (occurrence + 1) (if negative then -value else value)

example : (toInteger "017").toOption = some 15 ∧ (toInteger "-1:30").toOption = some (-90) ∧
    (toInteger "0x1_F").toOption = some 31 ∧ (toInteger "0b_").toOption = none := by
  decide +kernel

/-! ## Other scalars -/

/-- The truth value that a word stands for, in letters of any case. -/
def toBool (text : String) : Except DocumentFault Bool :=
  match Plain.boolWords.lookup (String.ofList (text.toList.map Char.toLower)) with
  | some b => .ok b
  | none => .error .noTruthValue

def toTime (text : String) : Except DocumentFault Value :=
  match Timestamp.read? (Plain.withoutFinalBreak text.toList) with
  | none => .error .noTime
  | some timestamp =>
      match timestamp.value? with
      | some value => .ok value
      | none => .error .impossibleTime

def toBytes (text : String) : Except DocumentFault (List UInt8) := do
  if text.toList.all fun c => c.toNat < 128 then Base64.decode? text.toList
  else .error .malformed

/-- The value of a scalar with a tag. Its number among the nodes of the document
tells one undefined number from another. -/
def value (occurrence : Nat) (tag : Tag) (text : String) : Except DocumentFault Value :=
  match tag with
  | .null => .ok .null
  | .bool => .bool <$> toBool text
  | .int => .int <$> toInteger text
  | .float => toDecimal occurrence text
  | .time => toTime text
  | .bytes => .bytes <$> toBytes text
  | .text => .ok (.text text)
  | _ => .error .malformed

end RoutingPlane.Yaml.Scalar
