import StorageInventory.Text.Basic

/-!
# Days and moments

Days of the calendar, lengths of time, and the moments that a configuration can hold.
-/

namespace StorageInventory

/-!
## The calendar

Days of the Gregorian calendar, counted from the first of January 1970 in both directions, and
lengths of time.  Counting works with years that start on the first of March, so that a leap day
ends its year, in cycles of 400 years, which have 146097 days.

* `Day.ofCount` and `Day.count` go between a day and its number,
* `Day.isReal` says whether the calendar has a day.
-/

/-- A day of the calendar. -/
structure Day where
  year : Int
  month : Nat
  day : Nat
  deriving DecidableEq, Repr

namespace Day

/-- The seconds of a day. -/
def seconds : Int := 86400

/-- The days from the first of March of the year 0 to the first of January 1970. -/
def epoch : Int := 719468

/-- The days of 400 years. -/
def cycleDays : Int := 146097

/-- The day that lies a number of days after the first of January 1970. -/
def ofCount (days : Int) : Day :=
  let shifted := days + epoch
  let cycle := shifted.fdiv cycleDays
  let inCycle := (shifted - cycle * cycleDays).toNat
  let yearOfCycle := (inCycle - inCycle / 1460 + inCycle / 36524 - inCycle / 146096) / 365
  let dayOfYear := inCycle - (365 * yearOfCycle + yearOfCycle / 4 - yearOfCycle / 100)
  let shiftedMonth := (5 * dayOfYear + 2) / 153
  let day := dayOfYear - (153 * shiftedMonth + 2) / 5 + 1
  let month := if shiftedMonth < 10 then shiftedMonth + 3 else shiftedMonth - 9
  { year := (yearOfCycle : Int) + cycle * 400 + if month ≤ 2 then 1 else 0, month, day }

/-- The number of days from the first of January 1970 to a day. -/
def count (d : Day) : Int :=
  let year := if d.month ≤ 2 then d.year - 1 else d.year
  let cycle := year.fdiv 400
  let yearOfCycle := (year - cycle * 400).toNat
  let shiftedMonth := if d.month ≤ 2 then d.month + 9 else d.month - 3
  let dayOfYear := (153 * shiftedMonth + 2) / 5 + d.day - 1
  let inCycle := 365 * yearOfCycle + yearOfCycle / 4 - yearOfCycle / 100 + dayOfYear
  cycle * cycleDays + inCycle - epoch

/-- The year has a leap day. -/
def isLeap (year : Int) : Bool := year % 4 = 0 && (year % 100 ≠ 0 || year % 400 = 0)

/-- The number of days of a month. -/
def inMonth (year : Int) (month : Nat) : Nat :=
  if month = 2 then if isLeap year then 29 else 28
  else if [4, 6, 9, 11].elem month then 30
  else 31

/-- The years in which the calendar can be written. -/
def isWritableYear (year : Int) : Bool := 1 ≤ year && year ≤ 9999

end Day

/-! ### Lengths of time -/

/-- A length of time as a number of days, which may be negative, and of seconds, which are fewer
than a day. -/
def durationText (seconds : Int) : Text :=
  let days := seconds.fdiv Day.seconds
  let rest := seconds - days * Day.seconds
  let parts := (if days = 0 then [] else ["days=".toList ++ Text.ofInt days])
    ++ (if rest = 0 then [] else ["seconds=".toList ++ Text.ofInt rest])
  "datetime.timedelta(".toList
    ++ (if parts = [] then ['0'] else ", ".toList.intercalate parts) ++ [')']

namespace Settings

/-!
## Dates and times as settings

A moment is a day, or a time on a day, which may say how far its clock is ahead of UTC.  Two moments
with such an offset are the same if they lie at the same point in time; otherwise their parts must
be the same.
-/

/-- A time of day. -/
structure TimeOfDay where
  hour : Nat
  minute : Nat
  second : Nat
  micros : Nat := 0
  deriving DecidableEq, Repr

/-- A day, with a time of day if it has one; the offset is in seconds. -/
inductive Moment where
  | date (day : Day)
  | dateTime (day : Day) (time : TimeOfDay) (offset : Option Int)
  deriving DecidableEq, Repr

/-- The microseconds since midnight. -/
def TimeOfDay.count (t : TimeOfDay) : Nat :=
  ((t.hour * 60 + t.minute) * 60 + t.second) * 1000000 + t.micros

/-- A time of day with two digits for each part, and six for the microseconds if there are any. -/
def TimeOfDay.text (t : TimeOfDay) : Text :=
  Text.ofNatPadded 2 t.hour ++ ':' :: Text.ofNatPadded 2 t.minute
    ++ ':' :: Text.ofNatPadded 2 t.second
    ++ if t.micros = 0 then [] else '.' :: Text.ofNatPadded 6 t.micros

/-- A day with four digits for the year and two for the others. -/
def dayText (d : Day) : Text :=
  Text.ofNatPadded 4 d.year.toNat ++ '-' :: Text.ofNatPadded 2 d.month
    ++ '-' :: Text.ofNatPadded 2 d.day

/-- An offset in hours and minutes, with its sign. -/
def offsetText (offset : Int) : Text :=
  (if offset < 0 then '-' else '+') :: Text.ofNatPadded 2 (offset.natAbs / 3600)
    ++ ':' :: Text.ofNatPadded 2 (offset.natAbs / 60 % 60)

namespace Moment

/-- A moment as text. -/
def text : Moment → Text
  | .date day => dayText day
  | .dateTime day time offset =>
    dayText day ++ ' ' :: time.text ++ (offset.map offsetText).getD []

/-- The parts of a day in order. -/
def dayParts (d : Day) : List Text :=
  [Text.ofInt d.year, Text.ofNat d.month, Text.ofNat d.day]

/-- The parts of a time of day in order; seconds and microseconds may be left out at the end. -/
def timeParts (t : TimeOfDay) : List Text :=
  [Text.ofNat t.hour, Text.ofNat t.minute]
    ++ (if t.second = 0 && t.micros = 0 then [] else [Text.ofNat t.second])
    ++ (if t.micros = 0 then [] else [Text.ofNat t.micros])

/-- An offset as a part. -/
def offsetPart (offset : Int) : Text :=
  "tzinfo=".toList ++
    if offset = 0 then "datetime.timezone.utc".toList
    else "datetime.timezone(".toList ++ durationText offset ++ [')']

/-- A moment as it is shown inside another value. -/
def shown : Moment → Text
  | .date day => "datetime.date(".toList ++ ", ".toList.intercalate (dayParts day) ++ [')']
  | .dateTime day time offset =>
    "datetime.datetime(".toList
      ++ ", ".toList.intercalate
        (dayParts day ++ timeParts time ++ (offset.map offsetPart).toList)
      ++ [')']

/-- The point in time in microseconds, if the moment says where its clock stands. -/
def point? : Moment → Option Int
  | .dateTime day time (some offset) =>
    some ((day.count * Day.seconds - offset) * 1000000 + time.count)
  | _ => none

/-- Two moments are the same. -/
def isSame (a b : Moment) : Bool :=
  match a.point?, b.point? with
  | some p, some q => p = q
  | none, none => a = b
  | _, _ => false

end Moment

end Settings

end StorageInventory
