import StorageInventory.Calendar
import StorageInventory.Fault

/-!
# Timestamps

A plain scalar with the form of a date, or of a date with a time of day, is a moment.  A date alone
has four, two and two digits.  With a time of day the month, the day and the hour may have one
digit; the seconds may have a fraction, of which six places count, and an offset from UTC may
follow, or the letter that stands for none.

* `fieldsOf?` recognizes the form,
* `Fields.moment` gives the moment, or says which of the numbers is out of range.
-/

namespace StorageInventory.Yaml.Timestamp

open Settings (Moment TimeOfDay)

/-- The numbers that a time of day is written with. -/
structure TimeFields where
  hour : Nat
  minute : Nat
  second : Nat
  micros : Nat
  /-- The seconds that the clock is ahead of UTC. -/
  offset : Option Int

/-- The numbers that a timestamp is written with. -/
structure Fields where
  year : Nat
  month : Nat
  day : Nat
  time : Option TimeFields

/-! ## Recognizing the form -/

/-- The number that digits write. -/
def number (digits : Text) : Nat := digits.foldl (fun n c => 10 * n + (c.toNat - '0'.toNat)) 0

/-- Take at least and at most so many digits. -/
def takeDigits (least most : Nat) (text : Text) : Option (Text × Text) :=
  let digits := (text.takeWhile Char.isDigit).take most
  if digits.length < least then none else some (digits, text.drop digits.length)

/-- Take a number of at least and at most so many digits. -/
def takeNumber (least most : Nat) (text : Text) : Option (Nat × Text) :=
  (takeDigits least most text).map fun (digits, rest) => (number digits, rest)

/-- Take a mark. -/
def takeMark (mark : Char) : Text → Option Text
  | c :: rest => if c = mark then some rest else none
  | [] => none

/-- A space or a tab. -/
def isGap (c : Char) : Bool := c = ' ' || c = '\t'

/-- Take what separates the day from the time: a letter, or a gap. -/
def takeSeparator : Text → Option Text
  | [] => none
  | c :: rest =>
    if c = 'T' || c = 't' then some rest
    else if isGap c then some (rest.dropWhile isGap)
    else none

/-- Take the fraction of the seconds, in microseconds; it may be missing. -/
def takeFraction : Text → Nat × Text
  | '.' :: rest =>
    let digits := rest.takeWhile Char.isDigit
    (number ((digits.take 6) ++ List.replicate (6 - digits.length) '0'), rest.drop digits.length)
  | text => (0, text)

/-- Read the offset, which may be missing; nothing may follow it. -/
def readOffset (text : Text) : Option (Option Int) :=
  match text.dropWhile isGap with
  | [] => some none
  | ['Z'] => some (some 0)
  | sign :: rest =>
    if sign ≠ '+' && sign ≠ '-' then none
    else do
      let (hours, rest) ← takeNumber 1 2 rest
      let minutes ← match rest with
        | [] => some 0
        | _ =>
          match (takeMark ':' rest).bind (takeNumber 2 2) with
          | some (minutes, []) => some minutes
          | _ => none
      let seconds : Int := (hours * 60 + minutes) * 60
      return some (if sign = '-' then -seconds else seconds)

/-- Read a time of day. -/
def readTime (text : Text) : Option TimeFields := do
  let (hour, rest) ← takeNumber 1 2 text
  let (minute, rest) ← (takeMark ':' rest).bind (takeNumber 2 2)
  let (second, rest) ← (takeMark ':' rest).bind (takeNumber 2 2)
  let (micros, rest) := takeFraction rest
  return { hour, minute, second, micros, offset := ← readOffset rest }

/-- The numbers of a text with the form of a timestamp, in which months and days may have one
digit. -/
def looseFieldsOf? (text : Text) : Option Fields := do
  let (year, rest) ← takeNumber 4 4 text
  let (month, rest) ← (takeMark '-' rest).bind (takeNumber 1 2)
  let (day, rest) ← (takeMark '-' rest).bind (takeNumber 1 2)
  let time ← match rest with
    | [] => some none
    | _ => ((takeSeparator rest).bind readTime).map some
  return { year, month, day, time }

/-- The length of a date alone. -/
def dateLength : Nat := 10

/-- The numbers of a text with the form of a timestamp. -/
def fieldsOf? (text : Text) : Option Fields :=
  (looseFieldsOf? text).filter fun fields => fields.time.isSome || text.length = dateLength

/-! ## The moment -/

/-- The day, if the calendar has it. -/
def Fields.calendarDay (f : Fields) : Except Fault Day := do
  if !Day.isWritableYear f.year then throw (.yearOutOfRange f.year)
  if f.month < 1 || 12 < f.month then throw .monthOutOfRange
  if f.day < 1 || Day.inMonth f.year f.month < f.day then throw .dayOutOfRange
  return { year := f.year, month := f.month, day := f.day }

/-- The time of day, if the clock shows it. -/
def TimeFields.timeOfDay (t : TimeFields) : Except Fault TimeOfDay := do
  if 23 < t.hour then throw (.timeOutOfRange "hour".toList 23)
  if 59 < t.minute then throw (.timeOutOfRange "minute".toList 59)
  if 59 < t.second then throw (.timeOutOfRange "second".toList 59)
  return { hour := t.hour, minute := t.minute, second := t.second, micros := t.micros }

/-- An offset of less than a day. -/
def checkOffset (offset : Int) : Except Fault Unit :=
  if -Day.seconds < offset && offset < Day.seconds then .ok ()
  else .error (.offsetOutOfRange offset)

/-- The moment of the numbers; the offset is looked at first. -/
def Fields.moment (f : Fields) : Except Fault Moment :=
  match f.time with
  | none => f.calendarDay.map .date
  | some time => do
    time.offset.forM checkOffset
    let day ← f.calendarDay
    return .dateTime day (← time.timeOfDay) time.offset

end StorageInventory.Yaml.Timestamp
