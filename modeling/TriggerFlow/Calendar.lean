import TriggerFlow.Fault

/-!
# Points in time

A wall-clock time counts the microseconds since the first day of year 1; the years 1 to 9999 are in
range. A timestamp is a wall-clock time with or without an offset from universal time. `toUniversal`
takes one without an offset to be universal already.
-/

namespace TriggerFlow

/-- Microseconds since the beginning of year 1, in the proleptic Gregorian calendar. -/
abbrev WallTime := Int

namespace Calendar

def secondMicros : Int := 1000000

def dayMicros : Int := 86400 * secondMicros

/-- The day number of a date; the first of March of year 0 is day 0. -/
def dayOfDate (year month day : Int) : Int :=
  let y := if month ≤ 2 then year - 1 else year
  let m := if month ≤ 2 then month + 9 else month - 3
  365 * y + y / 4 - y / 100 + y / 400 + (153 * m + 2) / 5 + (day - 1)

/-- The date of a day number. -/
def dateOfDay (n : Int) : Int × Int × Int :=
  let era := n / 146097
  let d := n % 146097
  let y := (d - d / 1460 + d / 36524 - d / 146096) / 365
  let rest := d - (365 * y + y / 4 - y / 100)
  let m := (5 * rest + 2) / 153
  let day := rest - (153 * m + 2) / 5 + 1
  let month := if m < 10 then m + 3 else m - 9
  (era * 400 + y + (if month ≤ 2 then 1 else 0), month, day)

/-- The day number of the first day of year 1. -/
def firstDay : Int := dayOfDate 1 1 1

/-- The end of the range: the first moment of year 10000. -/
def limit : Int := (dayOfDate 10000 1 1 - firstDay) * dayMicros

/-- The wall-clock time of a date and the microseconds of its day. -/
def ofDate (year month day micros : Int) : WallTime :=
  (dayOfDate year month day - firstDay) * dayMicros + micros

/-- How many days a month has. -/
def daysOfMonth (year month : Int) : Int :=
  if month == 12 then 31 else dayOfDate year (month + 1) 1 - dayOfDate year month 1

/-- The day number of the Monday on which the first week of a year starts: the week of the fourth of
January. -/
def firstMonday (year : Int) : Int :=
  let n := dayOfDate year 1 4
  n - (n - firstDay) % 7

end Calendar

/-- A wall-clock time with its offset from universal time in microseconds, if it is known. -/
structure Timestamp where
  wall : WallTime
  offset : Option Int
  deriving DecidableEq

namespace Timestamp

/-- The same moment in universal time; a time without an offset is taken to be universal. -/
def toUniversal (t : Timestamp) : Except Breakdown Timestamp :=
  match t.offset with
  | none => .ok { t with offset := some 0 }
  | some offset =>
    let moment := t.wall - offset
    if 0 ≤ moment && moment < Calendar.limit then .ok ⟨moment, some 0⟩
    else .error .dateOutOfRange

/-! ### Text -/

/-- The digits of a number with zeros in front. -/
def padded (width : Nat) (n : Nat) : List Char :=
  let digits := Nat.toDigits 10 n
  List.replicate (width - digits.length) '0' ++ digits

/-- Hours, minutes, and what there is of seconds and microseconds. -/
def clockChars (alwaysSeconds : Bool) (micros : Nat) : List Char :=
  let seconds := micros / 1000000
  let fraction := micros % 1000000
  let hoursMinutes := padded 2 (seconds / 3600) ++ ':' :: padded 2 (seconds / 60 % 60)
  let wholeSeconds :=
    if alwaysSeconds || seconds % 60 != 0 || fraction != 0 then ':' :: padded 2 (seconds % 60)
    else []
  hoursMinutes ++ wholeSeconds ++ (if fraction == 0 then [] else '.' :: padded 6 fraction)

/-- The text of a timestamp: date, time with microseconds if there are any, and offset. -/
def text (t : Timestamp) : String :=
  let (year, month, day) := Calendar.dateOfDay (t.wall / Calendar.dayMicros + Calendar.firstDay)
  let date := padded 4 year.toNat ++ '-' :: padded 2 month.toNat ++ '-' :: padded 2 day.toNat
  let time := clockChars true (t.wall % Calendar.dayMicros).toNat
  let offset := match t.offset with
    | none => []
    | some o => (if o < 0 then '-' else '+') :: clockChars false o.natAbs
  String.ofList (date ++ 'T' :: time ++ offset)

end Timestamp

end TriggerFlow
