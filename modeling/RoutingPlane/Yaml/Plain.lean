import RoutingPlane.Text.Split
import RoutingPlane.Yaml.Tag
import RoutingPlane.Yaml.Timestamp

/-!
What the form of a plain scalar tells: whether it is nothing, a truth value, a
number or a time. It is a text otherwise. Whole numbers are written in base two,
eight, ten or sixteen, or in base sixty with colons between the places; other
numbers need a point, and a sign if they have an exponent.
-/

namespace RoutingPlane.Yaml.Plain

open RoutingPlane.Decimal RoutingPlane.Text

/-! ## Words -/

def nullWords : List String :=
  ["", "~", "null", "Null", "NULL"]

def boolWords : List (String × Bool) :=
  [("yes", true), ("no", false), ("true", true), ("false", false), ("on", true),
    ("off", false)]

def capitalisations (word : String) : List String :=
  match word.toList with
  | [] => [""]
  | c :: rest => [word, String.ofList (c.toUpper :: rest), String.ofList (word.toList.map Char.toUpper)]

def isBoolWord (text : String) : Bool :=
  boolWords.any fun word => (capitalisations word.1).contains text

/-- The marks that begin nodes of other kinds. Alone they have no meaning. -/
def nodeMarks : List String :=
  ["!", "&", "*"]

/-! ## Forms of numbers -/

def unsigned (text : List Char) : List Char :=
  (splitSign text).2

/-- Whether all characters are underscores or pass a test, and there are some. -/
def isRun (test : Char → Bool) (text : List Char) : Bool :=
  !text.isEmpty && text.all fun c => c = '_' || test c

/-- Whether a text consists of digits and underscores and begins with a digit. -/
def isDigits (text : List Char) : Bool :=
  isRun Char.isDigit text && text.head? != some '_'

/-- Whether a text is a place of a number in base sixty. -/
def isSixtieth : List Char → Bool
  | [c] => c.isDigit
  | [c, d] => '0' ≤ c && c ≤ '5' && d.isDigit
  | _ => false

/-- Whether a text consists of places in base sixty, the first of which passes a
test. -/
def isSexagesimal (isFirst : List Char → Bool) (text : List Char) : Bool :=
  match split ':' text with
  | first :: place :: places => isFirst first && (place :: places).all isSixtieth
  | _ => false

/-- Whether a text consists of digits and does not begin with a zero. -/
def isCount (text : List Char) : Bool :=
  isDigits text && text.head? != some '0'

/-- Whether a text is a zero with digits in a base other than ten behind it. -/
def isMarked : List Char → Bool
  | '0' :: rest =>
      isRun (fun c => (digitIn? 8 c).isSome) rest ||
        match rest with
        | 'b' :: digits => isRun (fun c => (digitIn? 2 c).isSome) digits
        | 'x' :: digits => isRun (fun c => (digitIn? 16 c).isSome) digits
        | _ => false
  | _ => false

def isInteger (text : List Char) : Bool :=
  let size := unsigned text
  size = ['0'] || isCount size || isSexagesimal isCount size || isMarked size

def isExponent : List Char → Bool
  | [] => true
  | mark :: sign :: digits =>
      (mark = 'e' || mark = 'E') && (sign = '+' || sign = '-') &&
        !digits.isEmpty && digits.all Char.isDigit
  | _ => false

/-- Whether a text consists of digits, underscores and possibly an exponent. -/
def isFraction (text : List Char) : Bool :=
  isExponent (text.dropWhile fun c => c.isDigit || c = '_')

def atPoint (text : List Char) : List Char × Option (List Char) :=
  (text.takeWhile (· ≠ '.'), (text.dropWhile (· ≠ '.')).tail?)

/-- Whether a text has the form of a number with a point. A sign is allowed
only before a digit and before an infinity. -/
def isDecimal (text : List Char) : Bool :=
  let size := unsigned text
  let word := String.ofList size
  [".inf", ".Inf", ".INF"].contains word ||
    (size == text && [".nan", ".NaN", ".NAN"].contains word) ||
    match atPoint size with
    | ([], some fraction) =>
        size == text && fraction.head?.any Char.isDigit && isFraction fraction
    | (whole, some fraction) =>
        (isDigits whole && isFraction fraction) ||
          (isSexagesimal isDigits whole && fraction.all fun c => c.isDigit || c = '_')
    | (_, none) => false

def isTime (text : List Char) : Bool :=
  (Timestamp.read? text).any Timestamp.isPlain

def withoutFinalBreak (text : List Char) : List Char :=
  if text.getLast? = some '\n' then text.dropLast else text

/-- The tag that the form of a text tells. A line break at its end does not
count, unless there is nothing else. -/
def tag (text : String) : Tag :=
  let line := withoutFinalBreak text.toList
  let word := String.ofList line
  if text = "\n" then .text
  else if nullWords.contains word then .null
  else if isBoolWord word then .bool
  else if isDecimal line then .float
  else if isInteger line then .int
  else if isTime line then .time
  else if word = "<<" then .merge
  else if word = "=" then .standIn
  else if nodeMarks.contains word then .unknown
  else .text

example : isDecimal "1.0e+3".toList = true ∧ isDecimal "1e3".toList = false ∧
    isInteger "08".toList = false ∧ isInteger "1:60".toList = false := by
  decide +kernel

end RoutingPlane.Yaml.Plain
