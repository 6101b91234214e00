import TriggerFlow.Calendar

/-!
# Reading timestamps

A timestamp is a calendar date or a week date and, after any one character, a time of day with an
optional offset; hyphens and colons may be left out. Its parts are looked at only once the whole text
has been read.
-/

namespace TriggerFlow.Timestamp

/-- Why a text is no timestamp. -/
inductive ReadingFault
  | malformed (text : String)
  | yearRange (year : Int)
  | monthRange
  | dayRange
  | hourRange
  | minuteRange
  | secondRange
  | offsetRange (micros : Int)
  deriving DecidableEq

/-- A length of time in days, seconds and microseconds, of which only the days may be negative and only
those that are not zero are written. -/
def lengthText (micros : Int) : String :=
  let days := micros / Calendar.dayMicros
  let rest := micros % Calendar.dayMicros
  let part (name : String) (n : Int) : List String :=
    if n == 0 then [] else [name ++ "=" ++ toString n]
  let parts := part "days" days ++ part "seconds" (rest / Calendar.secondMicros) ++
    part "microseconds" (rest % Calendar.secondMicros)
  "datetime.timedelta(" ++ (if parts.isEmpty then "0" else ", ".intercalate parts) ++ ")"

def ReadingFault.message : ReadingFault → String
  | .malformed text => "Invalid isoformat string: " ++ Text.quoted text
  | .yearRange year => "year " ++ toString year ++ " is out of range"
  | .monthRange => "month must be in 1..12"
  | .dayRange => "day is out of range for month"
  | .hourRange => "hour must be in 0..23"
  | .minuteRange => "minute must be in 0..59"
  | .secondRange => "second must be in 0..59"
  | .offsetRange micros =>
    "offset must be a timedelta strictly between -timedelta(hours=24) and timedelta(hours=24), not " ++
      lengthText micros ++ "."

/-- A date by its year, month and day. -/
structure Date where
  year : Int
  month : Int
  day : Int

/-- A time of day, or a distance in time, by its parts. -/
structure Clock where
  hour : Nat
  minute : Nat := 0
  second : Nat := 0
  micro : Nat := 0

def Clock.seconds (c : Clock) : Nat := (c.hour * 60 + c.minute) * 60 + c.second

def Clock.micros (c : Clock) : Nat := c.seconds * 1000000 + c.micro

/-- Reads exactly so many digits. -/
def digits? (width : Nat) (cs : List Char) : Option (Nat × List Char) :=
  let read := cs.take width
  if read.length == width && read.all Char.isDigit then
    some (read.foldl (fun n c => 10 * n + (c.toNat - '0'.toNat)) 0, cs.drop width)
  else none

/-- The day of a week of a year, the days counted from Monday as 1. Year 0 has no months. -/
def weekDate? (year week day : Nat) : Option Date :=
  let start := Calendar.firstMonday year + 7 * ((week : Int) - 1)
  if week == 0 || day == 0 || 7 < day then none
  else if year == 0 then if week ≤ 52 then some ⟨1, 0, 1⟩ else none
  else if Calendar.firstMonday (year + 1) ≤ start then none
  else
    let (y, m, d) := Calendar.dateOfDay (start + day - 1)
    some ⟨y, m, d⟩

/-- How many characters the date takes that a text starts with, by the places of its hyphens and of
its `W`. A week date with hyphens has no day of the week if two digits would follow the hyphen; one
without hyphens has it unless an even number of digits follows the year and the week, of which the
first separates. -/
def dateLength (cs : List Char) : Nat :=
  let at' (i : Nat) := cs.getD i '\x00'
  if cs.length == 7 then 7
  else if at' 4 == '-' then
    if at' 5 == 'W' && (at' 8 != '-' || (at' 10).isDigit) then 8 else 10
  else if at' 4 == 'W' then
    let digits := ((cs.drop 7).takeWhile Char.isDigit).length
    if digits < 2 then 7 + digits else if digits % 2 == 1 then 7 else 8
  else 8

/-- Reads a date that takes the whole text, with or without hyphens. The day of a week is Monday if it
is left out. -/
def date? (cs : List Char) : Option Date := do
  let (year, rest) ← digits? 4 cs
  let hyphens := rest.head? == some '-'
  let skip (cs : List Char) : Option (List Char) :=
    match hyphens, cs with
    | true, '-' :: rest => some rest
    | true, _ => none
    | false, cs => some cs
  match ← skip rest with
  | 'W' :: rest =>
    let (week, rest) ← digits? 2 rest
    if rest.isEmpty then weekDate? year week 1
    else
      let (day, rest) ← digits? 1 (← skip rest)
      if rest.isEmpty then weekDate? year week day else none
  | rest =>
    let (month, rest) ← digits? 2 rest
    let (day, rest) ← digits? 2 (← skip rest)
    if rest.isEmpty then some ⟨year, month, day⟩ else none

/-- Reads a fraction of a second as microseconds, of which `room` characters are left, and whether
anything but digits follows. Further digits are dropped. -/
def fraction? (cs : List Char) (room : Nat) : Option (Nat × Bool) := do
  let width := min 6 room
  let (digits, rest) ← digits? width cs
  let next := (rest.dropWhile Char.isDigit).headD '\x00'
  return (digits * 10 ^ (6 - width), next != '\x00')

/-- Reads up to `count` parts of two digits and the fraction after them, in `room` characters, and
whether anything follows. The parts stand with colons if the first has one, else without any. A last
character that starts no part is passed over. -/
def parts? (count : Nat) (colons : Option Bool) (cs : List Char) (room : Nat) :
    Option (List Nat × Nat × Bool) :=
  let fraction (cs : List Char) (room : Nat) : Option (List Nat × Nat × Bool) :=
    (fraction? cs room).map fun (micro, more) => ([], micro, more)
  match count with
  | 0 => fraction cs room
  | count + 1 => do
    let (part, rest) ← digits? 2 cs
    let next := rest.headD '\x00'
    let colons := colons.getD (next == ':')
    let (parts, micro, more) ←
      if room ≤ 3 then some ([], 0, next != '\x00')
      else if colons && next == ':' then parts? count (some colons) (rest.drop 1) (room - 3)
      else if next == '.' || next == ',' then fraction (rest.drop 1) (room - 3)
      else if colons then none
      else parts? count (some colons) rest (room - 2)
    return (part :: parts, micro, more)

/-- Reads hours with optional minutes, seconds and fraction, and whether anything follows. -/
def clock? (cs : List Char) (room : Nat) : Option (Clock × Bool) :=
  (parts? 3 none cs room).map fun (parts, micro, more) =>
    (⟨parts.getD 0 0, parts.getD 1 0, parts.getD 2 0, micro⟩, more)

/-- The offset of a distance from universal time; one of less than a second is none. -/
def offsetOf (sign : Char) (distance : Clock) : Int :=
  if distance.seconds == 0 then 0
  else if sign == '-' then -(distance.micros : Int)
  else distance.micros

/-- Reads a time of day and an offset to the end of the text: the letter of universal time, or a sign
with a distance. -/
def time? (cs : List Char) : Option (Clock × Option Int) := do
  let room := cs.findIdx fun c => c == '+' || c == '-' || c == 'Z'
  let (time, more) ← clock? cs room
  match cs.drop room with
  | [] => if more then none else some (time, none)
  | 'Z' :: rest => if rest.headD '\x00' == '\x00' then some (time, some 0) else none
  | sign :: rest =>
    let (distance, more) ← clock? rest rest.length
    if more then none else some (time, some (offsetOf sign distance))

/-- The timestamp of parts that are in their ranges. -/
def ofParts (date : Date) (time : Clock) (offset : Option Int) : Except ReadingFault Timestamp :=
  if offset.any fun o => o ≤ -Calendar.dayMicros || Calendar.dayMicros ≤ o then
    .error (.offsetRange (offset.getD 0))
  else if date.year < 1 || 9999 < date.year then .error (.yearRange date.year)
  else if date.month < 1 || 12 < date.month then .error .monthRange
  else if date.day < 1 || Calendar.daysOfMonth date.year date.month < date.day then
    .error .dayRange
  else if 23 < time.hour then .error .hourRange
  else if 59 < time.minute then .error .minuteRange
  else if 59 < time.second then .error .secondRange
  else .ok ⟨Calendar.ofDate date.year date.month date.day time.micros, offset⟩

/-- The text with each character as often as it takes bytes. -/
def widen (cs : List Char) : List Char := cs.flatMap fun c => List.replicate c.utf8Size c

/-- Reads a timestamp. -/
def read (s : String) : Except ReadingFault Timestamp :=
  let cs := s.toList
  let length := dateLength (widen cs)
  let parts : Option (Date × Clock × Option Int) := do
    let date ← date? (cs.take length)
    match cs.drop length with
    | [] => return (date, ⟨0, 0, 0, 0⟩, none)
    | _ :: rest =>
      let (time, offset) ← time? (widen rest)
      return (date, time, offset)
  match parts with
  | some (date, time, offset) => ofParts date time offset
  | none => .error (.malformed s)

end TriggerFlow.Timestamp
