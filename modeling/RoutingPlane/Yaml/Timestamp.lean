import RoutingPlane.Decimal.Numeral
import RoutingPlane.Value
import RoutingPlane.Yaml.Fault

/-!
Days and times in documents. A day is written as a year of four digits, a month
and a day; a time of that day may follow, and behind it how far its clock is
ahead of universal time.
-/

namespace RoutingPlane.Yaml

open RoutingPlane.Decimal (digitsValue)

structure WrittenTime where
  hour : List Char
  minute : List Char
  second : List Char
  /-- The digits behind the point, which may be missing. -/
  fraction : List Char := []
  /-- The minutes by which the clock is ahead of universal time. -/
  offset : Option Int := none

structure Timestamp where
  year : List Char
  month : List Char
  day : List Char
  time : Option WrittenTime := none

namespace Timestamp

/-- Reads digits, as many as there are up to a number and at least another one. -/
def readDigits? (least most : Nat) (text : List Char) : Option (List Char × List Char) :=
  let digits := (text.take most).takeWhile Char.isDigit
  if least ≤ digits.length then some (digits, text.drop digits.length) else none

def readMark? (mark : Char) : List Char → Option (List Char)
  | [] => none
  | c :: rest => if c = mark then some rest else none

def isGap (c : Char) : Bool :=
  c = ' ' || c = '\t'

def readGap? : List Char → Option (List Char)
  | [] => none
  | c :: rest =>
      if c = 'T' || c = 't' then some rest
      else if isGap c then some (rest.dropWhile isGap)
      else none

def readOffsetMinutes? : List Char → Option Nat
  | [] => some 0
  | c :: rest => do
      if c ≠ ':' then none
      let (minutes, last) ← readDigits? 2 2 rest
      if last.isEmpty then some (digitsValue 0 minutes) else none

/-- Reads an offset in minutes: a mark for universal time, or a sign, hours and
minutes. -/
def readOffset? : List Char → Option Int
  | [] => none
  | c :: rest =>
      if c = 'Z' then if rest.isEmpty then some 0 else none
      else if c = '+' || c = '-' then do
        let (hours, more) ← readDigits? 1 2 rest
        let minutes : Int := digitsValue 0 hours * 60 + (← readOffsetMinutes? more)
        return if c = '-' then -minutes else minutes
      else none

/-- Reads a fraction and an offset, both of which may be missing. -/
def readFine? (text : List Char) : Option (List Char × Option Int) := do
  let digits (rest : List Char) : List Char := rest.takeWhile Char.isDigit
  let (fraction, rest) :=
    match text with
    | '.' :: rest => (digits rest, rest.dropWhile Char.isDigit)
    | rest => ([], rest)
  if rest.isEmpty then return (fraction, none)
  return (fraction, some (← readOffset? (rest.dropWhile isGap)))

def readTime? (text : List Char) : Option WrittenTime := do
  let (hour, rest) ← readDigits? 1 2 text
  let (minute, rest) ← readDigits? 2 2 (← readMark? ':' rest)
  let (second, rest) ← readDigits? 2 2 (← readMark? ':' rest)
  let (fraction, offset) ← readFine? rest
  return { hour, minute, second, fraction, offset }

def read? (text : List Char) : Option Timestamp := do
  let (year, rest) ← readDigits? 4 4 text
  let (month, rest) ← readDigits? 1 2 (← readMark? '-' rest)
  let (day, rest) ← readDigits? 1 2 (← readMark? '-' rest)
  if rest.isEmpty then return { year, month, day }
  return { year, month, day, time := some (← readTime? (← readGap? rest)) }

/-- Whether the month and the day have two digits, or a time follows: only then
is the form of a text enough to tell that it is a day. -/
def isPlain (timestamp : Timestamp) : Bool :=
  timestamp.time.isSome || (timestamp.month.length = 2 && timestamp.day.length = 2)

/-- The microseconds that the digits behind a point denote; what is finer is left
out. -/
def microseconds (fraction : List Char) : Nat :=
  digitsValue 0 ((fraction ++ List.replicate 6 '0').take 6)

/-- The value of a written day or time, if there is such a day and time. -/
def value? (timestamp : Timestamp) : Option Value := do
  let number := digitsValue 0
  let date ← CalendarDate.ofParts? (number timestamp.year) (number timestamp.month)
    (number timestamp.day)
  match timestamp.time with
  | none => return .date date
  | some time =>
      return .moment (← Moment.ofParts? date (number time.hour) (number time.minute)
        (number time.second) (microseconds time.fraction) time.offset)

end Timestamp

end RoutingPlane.Yaml
