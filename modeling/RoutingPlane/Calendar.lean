/-!
Days and times. Days are those of the Gregorian calendar, carried back to its
first year; a time may tell how far its clock is ahead of universal time.
-/

namespace RoutingPlane

/-! ## Days -/

def isLeapYear (year : Nat) : Bool :=
  year % 4 = 0 && (year % 100 ≠ 0 || year % 400 = 0)

/-- The number of days of a month, none for a month that does not exist. -/
def daysInMonth (year month : Nat) : Nat :=
  if month = 2 then if isLeapYear year then 29 else 28
  else if [4, 6, 9, 11].contains month then 30
  else if 1 ≤ month ∧ month ≤ 12 then 31
  else 0

/-- Whether a day exists. Years have four digits and begin with one. -/
def isDay (year month day : Nat) : Bool :=
  decide (1 ≤ year) && decide (year ≤ 9999) && decide (1 ≤ day) &&
    decide (day ≤ daysInMonth year month)

structure CalendarDate where
  year : Nat
  month : Nat
  day : Nat
  dayExists : isDay year month day = true
  deriving DecidableEq, Repr

namespace CalendarDate

def ofParts? (year month day : Nat) : Option CalendarDate :=
  if dayExists : isDay year month day = true then some ⟨year, month, day, dayExists⟩ else none

def number (date : CalendarDate) : Nat :=
  let past := date.year - 1
  let months := (List.range' 1 (date.month - 1)).foldl
    (fun days month => days + daysInMonth date.year month) 0
  past * 365 + past / 4 - past / 100 + past / 400 + months + date.day

def padded (width n : Nat) : String :=
  let digits := Nat.toDigits 10 n
  String.ofList (List.replicate (width - digits.length) '0' ++ digits)

def text (date : CalendarDate) : String :=
  padded 4 date.year ++ "-" ++ padded 2 date.month ++ "-" ++ padded 2 date.day

def quoted (date : CalendarDate) : String :=
  "datetime.date(" ++ String.intercalate ", " ([date.year, date.month, date.day].map toString) ++ ")"

end CalendarDate

/-! ## Times -/

def minutesPerDay : Nat := 1440

def isClockTime (hour minute second microsecond : Nat) (offset : Option Int) : Bool :=
  decide (hour < 24) && decide (minute < 60) && decide (second < 60) &&
    decide (microsecond < 1000000) && offset.all fun minutes => decide (minutes.natAbs < minutesPerDay)

/-- A time of a day. -/
structure Moment where
  date : CalendarDate
  hour : Nat
  minute : Nat
  second : Nat
  microsecond : Nat
  /-- The minutes by which the clock is ahead of universal time, if it is known. -/
  offset : Option Int
  inRange : isClockTime hour minute second microsecond offset = true
  deriving DecidableEq, Repr

namespace Moment

open CalendarDate (padded)

def ofParts? (date : CalendarDate) (hour minute second microsecond : Nat) (offset : Option Int) :
    Option Moment :=
  if inRange : isClockTime hour minute second microsecond offset = true then
    some ⟨date, hour, minute, second, microsecond, offset, inRange⟩
  else none

/-- The microseconds that the clock has counted since the first day. -/
def clock (moment : Moment) : Nat :=
  (((moment.date.number * 24 + moment.hour) * 60 + moment.minute) * 60 + moment.second) * 1000000 +
    moment.microsecond

/-- The microseconds of universal time, where the offset is taken as known. -/
def instant (moment : Moment) : Int :=
  moment.clock - moment.offset.getD 0 * 60000000

/-- Whether two times are told by clocks of the same kind, so that they can be
put in order. -/
def comparable (left right : Moment) : Bool :=
  decide (left.offset.isSome = right.offset.isSome)

def offsetText (minutes : Int) : String :=
  (if minutes < 0 then "-" else "+") ++ padded 2 (minutes.natAbs / 60) ++ ":" ++
    padded 2 (minutes.natAbs % 60)

/-- The text of a time. Fractions of a second are left out if there are none. -/
def text (moment : Moment) : String :=
  moment.date.text ++ " " ++ padded 2 moment.hour ++ ":" ++ padded 2 moment.minute ++ ":" ++
    padded 2 moment.second ++
    (if moment.microsecond = 0 then "" else "." ++ padded 6 moment.microsecond) ++
    (moment.offset.map offsetText).getD ""

/-- An offset as it is shown inside other values: as days and seconds of which
only the days may be negative. -/
def quotedOffset (minutes : Int) : String :=
  if minutes = 0 then "datetime.timezone.utc"
  else
    let days := if minutes < 0 then "days=-1, " else ""
    let ahead := if minutes < 0 then minutes + minutesPerDay else minutes
    "datetime.timezone(datetime.timedelta(" ++ days ++ "seconds=" ++ toString (ahead * 60) ++ "))"

/-- A time as it is shown inside other values. Seconds and fractions are left out
from the end as long as there are none. -/
def quoted (moment : Moment) : String :=
  let fine :=
    if moment.microsecond ≠ 0 then [moment.second, moment.microsecond]
    else if moment.second ≠ 0 then [moment.second]
    else []
  let parts :=
    ([moment.date.year, moment.date.month, moment.date.day, moment.hour, moment.minute] ++
      fine).map toString ++ (moment.offset.map fun minutes => "tzinfo=" ++ quotedOffset minutes).toList
  "datetime.datetime(" ++ String.intercalate ", " parts ++ ")"

end Moment

end RoutingPlane
