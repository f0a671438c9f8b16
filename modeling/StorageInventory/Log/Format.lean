import StorageInventory.Calendar
import StorageInventory.Fault
import StorageInventory.Number.Binary64
import StorageInventory.Source
import StorageInventory.Text.Alphanumeric

/-!
# Log lines

A log line is made of a record, with the moment of the record in front.
-/

namespace StorageInventory.Log

open Number (Binary64 Quantity)
open Settings (Value)

/-!
## Time stamps

A moment is a number of seconds since the beginning of 1970 in UTC.  It is rounded to microseconds,
a tie to the even one, and then shown cut to milliseconds, in the Gregorian calendar.
-/

/-- The size of a number, rounded to a whole number, a tie to the even one. -/
def roundedSize : Binary64 → Nat
  | .finite _ m e =>
    let (n, d) := Binary64.ratio m e
    Number.roundDiv n d
  | _ => 0

/-- Whole seconds and microseconds of a moment; the microseconds count forward also before the
beginning. -/
def splitMoment : Quantity → Int × Nat
  | .whole seconds => (seconds, 0)
  | .binary moment =>
    let seconds := moment.truncate
    let micros := roundedSize (moment.fraction.times 1000000)
    match moment with
    | .finite true _ _ =>
      if micros = 0 then (seconds, 0) else (seconds - 1, 1000000 - micros)
    | _ => if 1000000 ≤ micros then (seconds + 1, micros - 1000000) else (seconds, micros)

/-- The milliseconds of a moment beyond its whole seconds, which are negative before the
beginning. -/
def milliseconds : Quantity → Int
  | .whole _ => 0
  | .binary moment => (moment.fraction.times 1000).truncate

/-- Two numbers of two digits, and so on: the time of day. -/
def clockText (secondOfDay : Nat) : Text :=
  Text.ofNatPadded 2 (secondOfDay / 3600) ++ ":".toList
    ++ Text.ofNatPadded 2 (secondOfDay / 60 % 60) ++ ":".toList
    ++ Text.ofNatPadded 2 (secondOfDay % 60)

/-- Numbers of seconds from here on, and below its negative, have too many bits. -/
def secondLimit : Int := Number.twoTo 63

/-- The years that a moment can be told in at all. -/
def yearLimit : Int := Number.twoTo 31

/-- A year as a number of 32 bits, which the last of the years that can be told are beyond. -/
def wrappedYear (year : Int) : Int := if yearLimit ≤ year then year - 2 * yearLimit else year

/-- The day and the time of day, without parts of seconds; only the years 1 to 9999 can be shown. -/
def secondText (seconds : Int) : Except Fault Text :=
  let days := seconds.fdiv Day.seconds
  let day := Day.ofCount days
  if seconds < -secondLimit || secondLimit ≤ seconds then .error .momentOutOfRange
  else if day.year < 1900 - yearLimit || 1900 + yearLimit ≤ day.year then .error .yearTooLarge
  else if !Day.isWritableYear day.year then .error (.yearOutOfRange (wrappedYear day.year))
  else
    .ok (Text.ofInt day.year ++ "-".toList ++ Text.ofNatPadded 2 day.month ++ "-".toList
      ++ Text.ofNatPadded 2 day.day ++ " ".toList
      ++ clockText (seconds - days * Day.seconds).toNat)

/-- The text of a moment. -/
def stampText (moment : Quantity) : Except Fault Text :=
  let (seconds, micros) := splitMoment moment
  (secondText seconds).map fun text =>
    text ++ ".".toList ++ Text.ofNatPadded 3 (micros / 1000)

/-!
## Lines

A log line shows the moment in brackets and then what a template makes of the fields of the record.
A template must have at least one placeholder with a key, or else it could show nothing of the
record.  The fields of a notice also tell where in the program it is given: the module, which is the
last name of the component, the function, and the line.
-/

/-- Where in a program a record is made. -/
structure Origin where
  moduleName : Option Text := none
  function : Option Text := none
  line : Int := 1

/-- A record: a message template with what it is about, and where and when it was made. -/
structure Record where
  component : Text
  level : Quantity
  template : Text
  arguments : List Item
  created : Quantity
  origin : Origin := {}

/-! ### Notices as records -/

namespace Notice

/-- The module that gives a notice. -/
def moduleName (notice : Notice) : Text := (Text.fields '.' notice.component).getLast?.getD []

/-- The function that gives a notice, and the line at which it does. -/
def place (notice : Notice) : Text × Nat :=
  let (function, line) : String × Nat := match notice with
    | .sourceUnavailable .. => ("_fetch", 61)
    | .collected .. => ("collect", 98)
    | .lookupFailed .. => ("resolve", 40)
    | .unexpectedMinor .. => ("resolve", 52)
    | .outOfScope source _ => ("_enter_disk", if source = Source.diskGeometry then 196 else 276)
    | .unreadable .. => ("read_file_lines", 61)
    | .unlistable .. => ("build_uuid_map", 80)
    | .commandMissing .. => ("run_command", 35)
    | .commandTimedOut .. => ("run_command", 38)
    | .commandNotRun .. => ("run_command", 41)
    | .commandFailed .. => ("run_command", 45)
    | .unexpectedDescriptors .. => ("_get_file_descriptors", 190)
    | .noConfiguration => ("load_config", 59)
    | .unsupportedPlatform .. => ("__init__", 52)
  (function.toList, line)

/-- The record of a notice, with its template in a language. -/
def toRecord (notice : Notice) (t : Translation) (created : Quantity) : Record where
  component := notice.component
  level := .whole notice.level.number
  template := (notice.wording t).toOption.getD notice.template
  arguments := notice.items
  created := created
  origin :=
    { moduleName := some notice.moduleName
      function := some notice.place.1
      line := notice.place.2 }

end Notice

/-! ### The fields of a record -/

/-- The names of levels. -/
def levelNames : List (Int × String) :=
  [(50, "CRITICAL"), (40, "ERROR"), (30, "WARNING"), (20, "INFO"), (10, "DEBUG"), (0, "NOTSET")]

/-- The name of a level. -/
def levelName (level : Quantity) : Except Fault Text :=
  let named? := if level.isWhole then levelNames.lookup level.floor else none
  match named? with
  | some name => .ok name.toList
  | none => (Item.ofQuantity level).toText.map ("Level ".toList ++ ·)

namespace Record

/-- The values for the message template.  A single mapping that is not empty has them by name. -/
def values (r : Record) : Values :=
  match r.arguments with
  | [.value (.mapping (entry :: entries))] =>
    .byName (fun key => (Value.entry? key (entry :: entries)).map .value)
      (.value (.mapping (entry :: entries)))
  | items => .inOrder items

/-- What a record is about, as one item. -/
def argumentsItem (r : Record) : Item :=
  match r.values with
  | .inOrder items => .group items
  | .byName _ all => all

/-- The message of a record.  Without values the template is shown as it is. -/
def message (r : Record) : Except Fault Text :=
  match r.values with
  | .inOrder [] => .ok r.template
  | values => fill r.template values

/-- The second of a record with a comma before its milliseconds. -/
def clock (r : Record) : Except Fault Text := do
  let second ← secondText r.created.floor
  fill "%s,%03d".toList (.inOrder [.text second, .int (milliseconds r.created)])

/-- The fields of a record, given its message, the name of its level and its clock. -/
def field? (r : Record) (message level clock : Text) (name : Text) : Option Item :=
  match String.ofList name with
  | "message" => some (.text message)
  | "msg" => some (.text r.template)
  | "args" => some r.argumentsItem
  | "name" => some (.text r.component)
  | "levelname" => some (.text level)
  | "levelno" => some (.ofQuantity r.level)
  | "created" => some (.ofQuantity r.created)
  | "msecs" => some (.value (.float (.ofInt (milliseconds r.created))))
  | "asctime" => some (.text clock)
  | "module" => r.origin.moduleName.map .text
  | "filename" => r.origin.moduleName.map fun name => .text (name ++ ".py".toList)
  | "funcName" => some (.ofOption r.origin.function)
  | "lineno" => some (.int r.origin.line)
  | "exc_info" | "exc_text" | "stack_info" => some (.value .null)
  | "threadName" => some (.text "MainThread".toList)
  | "processName" => some (.text "MainProcess".toList)
  | _ => none

end Record

/-! ### Templates for log lines -/

/-- A character of a key. -/
def isKeyChar (c : Char) : Bool := Text.isAlphanumeric c || c = '_'

/-- The letters with which a placeholder of a log template may end, in either case. -/
def placeholderLetters : Text := "diouxefgcrsa%".toList

/-- The letters outside ASCII that stand for one of these in another case: two forms of the letter i
and the long s. -/
def foldedLetters : Text := "\u0130\u0131\u017F".toList

/-- A letter may end a placeholder of a log template. -/
def isPlaceholderLetter (c : Char) : Bool :=
  placeholderLetters.elem c.toLower || foldedLetters.elem c

/-- A width or a precision, if there is one. -/
def skipMeasure : Text → Text
  | '*' :: rest => rest
  | text => text.dropWhile Text.isDecimal

/-- A placeholder with a key starts here. -/
def startsField : Text → Bool
  | '%' :: '(' :: text =>
    let key := text.takeWhile isKeyChar
    match text.drop key.length with
    | ')' :: rest =>
      let rest := skipMeasure (rest.dropWhile fun c => "#0+ -".toList.elem c)
      let rest : Option Text :=
        match rest with
        | '.' :: more => if (skipMeasure more).length < more.length then some (skipMeasure more)
            else none
        | _ => some rest
      key ≠ [] && match rest with
        | some (c :: _) => isPlaceholderLetter c
        | _ => false
    | _ => false
  | _ => false

/-- A placeholder with a key is somewhere in the template. -/
def hasField : Text → Bool
  | [] => false
  | c :: rest => startsField (c :: rest) || hasField rest

/-- A template for log lines. -/
structure Format where
  template : Text

/-- The template that an empty one stands for. -/
def messageOnly : Text := "%(message)s".toList

/-- The format for a configured value. -/
def Format.ofValue (value : Value) : Except Fault Format :=
  if !value.isTruthy then .ok ⟨messageOnly⟩
  else value.toTemplate.bind fun template =>
    if hasField template then .ok ⟨template⟩ else .error (.formatWithoutField template)

/-- The line for a record. -/
def Format.line (format : Format) (r : Record) : Except Fault Text := do
  let stamp ← stampText r.created
  let message ← r.message
  let level ← levelName r.level
  let clock ← r.clock
  let body ←
    match fill format.template (.byName (r.field? message level clock) (.value (.mapping []))) with
    | .error (.missingKey key) => .error (.unknownField key)
    | result => result
  return '[' :: stamp ++ " UTC] ".toList ++ body

end StorageInventory.Log
