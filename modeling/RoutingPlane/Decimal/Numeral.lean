import RoutingPlane.Decimal.Binary64
import RoutingPlane.Text.CharacterClass

/-!
Reading numerals. Blanks may surround a numeral, its digits may be of any
script, and a single underscore may separate two digits.
-/

namespace RoutingPlane.Decimal

open RoutingPlane.Text

/-- A text with its digits replaced by those between `0` and `9` and without
the blanks around it. -/
def plainNumeral (text : String) : List Char :=
  (trimBlanks text.toList).map fun c =>
    match digitValue? c with
    | some value => Char.ofNat (48 + value)
    | none => c

/-- Removes the underscores between digits; an underscore elsewhere is refused. -/
def joinDigits? : List Char → Option (List Char)
  | [] => some []
  | '_' :: _ => none
  | c :: '_' :: d :: rest =>
      if c.isDigit && d.isDigit then (joinDigits? (d :: rest)).map (c :: ·) else none
  | c :: rest => (joinDigits? rest).map (c :: ·)

/-- The number that a list of digits denotes after the digits already read. -/
def digitsValue (start : Nat) (text : List Char) : Nat :=
  text.foldl (fun value c => 10 * value + (c.toNat - 48)) start

def splitSign : List Char → Bool × List Char
  | '-' :: rest => (true, rest)
  | '+' :: rest => (false, rest)
  | text => (false, text)

def readNat? (text : List Char) : Option Nat :=
  if !text.isEmpty && text.all Char.isDigit then some (digitsValue 0 text) else none

/-! ## Whole numbers -/

/-- The reasons for which a text is not read as a whole number. -/
inductive NumeralFault where
  | malformed
  /-- There are more digits than are read. -/
  | tooLong (digits : Nat)
  deriving DecidableEq, Repr

/-- The most digits that a numeral in base ten may have. -/
def maxDigits : Nat := 4300

/-- The smallest size that takes more than the most digits to write. -/
def longBound : Nat :=
  Nat.pow 10 maxDigits

def digitIn? (base : Nat) (c : Char) : Option Nat :=
  let value :=
    if c.isDigit then c.toNat - 48
    else if 'a' ≤ c ∧ c ≤ 'f' then c.toNat - 87
    else if 'A' ≤ c ∧ c ≤ 'F' then c.toNat - 55
    else base
  if value < base then some value else none

/-- The letter that may follow a zero in front of the digits of a base. -/
def baseMark? (base : Nat) : Option Char :=
  if base = 2 then some 'b' else if base = 8 then some 'o' else if base = 16 then some 'x' else none

/-- A text without the mark of a base in front of it. An underscore may follow
the mark. -/
def withoutBaseMark (base : Nat) : List Char → List Char
  | '0' :: c :: rest =>
      if some c.toLower = baseMark? base then
        match rest with
        | '_' :: digits => digits
        | digits => digits
      else '0' :: c :: rest
  | text => text

/-- Whether underscores stand in a run of digits only between two digits. -/
def separatesDigits : List Char → Bool
  | [] => true
  | ['_'] => false
  | '_' :: '_' :: _ => false
  | _ :: rest => separatesDigits rest

/-- Reads the digits of a base without a sign. The number of digits is looked at
before what follows them. -/
def readSize (base : Nat) (text : List Char) : Except NumeralFault Nat :=
  let isInside (c : Char) : Bool := (digitIn? base c).isSome || c = '_'
  let run := text.takeWhile isInside
  let values := run.filterMap (digitIn? base)
  if run.head? = some '_' || !separatesDigits run then .error .malformed
  else if base = 10 && decide (maxDigits < values.length) then .error (.tooLong values.length)
  else if values.isEmpty || !(text.dropWhile isInside).isEmpty then .error .malformed
  else .ok (values.foldl (fun sum value => base * sum + value) 0)

/-- Reads a whole number from the characters of a numeral in a base. -/
def readChars (base : Nat) (plain : List Char) : Except NumeralFault Int := do
  let (negative, rest) := splitSign plain
  let size ← readSize base (withoutBaseMark base rest)
  return if negative then -(size : Int) else (size : Int)

def readInt (base : Nat) (text : String) : Except NumeralFault Int :=
  readChars base (plainNumeral text)

/-- The number nearest to `coefficient * 10 ^ exponent`. Sizes beyond all
finite numbers are settled first, so that no huge power is formed. -/
def nearestFloat (coefficient : Nat) (exponent : Int) : Float :=
  let size : Int := (Nat.toDigits 10 coefficient).length + exponent
  if coefficient = 0 then 0.0
  else if 310 < size then 1.0 / 0.0
  else if size < -330 then 0.0
  else
    match exponent with
    | .ofNat shift => Float.ofScientific coefficient false shift
    | .negSucc shift => Float.ofScientific coefficient true (shift + 1)

/-- Reads the exponent of a decimal: nothing, or a mark and a whole number. -/
def readExponent? : List Char → Option Int
  | [] => some 0
  | mark :: rest =>
      if mark = 'e' || mark = 'E' then
        let (negative, size) := splitSign rest
        (readNat? size).map fun n => if negative then -(n : Int) else (n : Int)
      else none

/-- Reads a decimal without a sign: digits, possibly with a point among or
around them, and possibly an exponent. -/
def readDecimal? (text : List Char) : Option Float :=
  let whole := text.takeWhile Char.isDigit
  let afterWhole := text.dropWhile Char.isDigit
  let fraction :=
    match afterWhole with
    | '.' :: rest => rest.takeWhile Char.isDigit
    | _ => []
  let afterFraction :=
    match afterWhole with
    | '.' :: rest => rest.dropWhile Char.isDigit
    | rest => rest
  if whole.isEmpty && fraction.isEmpty then none
  else
    (readExponent? afterFraction).map fun exponent =>
      nearestFloat (digitsValue 0 (whole ++ fraction)) (exponent - fraction.length)

/-- Reads a number, an infinity or the undefined number from the characters of
a numeral. -/
def readFloatChars? (chars : List Char) : Option Float := do
  let plain ← joinDigits? chars
  let (negative, rest) := splitSign plain
  let lowered := rest.map Char.toLower
  let size ←
    if lowered = "inf".toList || lowered = "infinity".toList then some (1.0 / 0.0)
    else if lowered = "nan".toList then some (0.0 / 0.0)
    else readDecimal? rest
  return if negative then -size else size

/-- Reads a number, an infinity or the undefined number. -/
def readFloat? (text : String) : Option Float :=
  readFloatChars? (plainNumeral text)

/-! ## Numerals in bytes -/

/-- The characters that bytes stand for in a numeral, without the blanks around
them. Only those of seven bits have a meaning there. -/
def byteNumeral (content : List UInt8) : List Char :=
  trimBlanks (content.map fun byte => if byte < 128 then Char.ofNat byte.toNat else '?')

example : (readInt 10 " -1_000 ").toOption = some (-1000) ∧ (readInt 10 "1__0").toOption = none ∧
    (readInt 16 "0x_1F").toOption = some 31 ∧ (readInt 8 "0x1").toOption = none := by
  decide +kernel

end RoutingPlane.Decimal
