import StorageInventory.Host.Tree
import StorageInventory.Source
import StorageInventory.Text.Basic
import StorageInventory.Text.Utf8

/-!
# Lines from files and commands

Both kinds of raw text are read in the same way: bytes are decoded, line ends unified, and the text
cut into lines.  A file that cannot be read and a command that cannot be run or reports failure give
no lines and a notice; only a fault that is not the system's goes on to the caller.

A setting that should name a file or a directory can hold a value of any kind.  A text is a path.  A
number is taken for what is open under it: a stream is read to its end and then closed, also where
reading it fails.  A number under which nothing is open is refused by the system, which counts like
a path that is missing.  Other kinds cannot be opened at all, except that no directory, like the
number just below zero, stands for the working directory.
-/

namespace StorageInventory.Host

open Settings (Value)

/-! ## Lines -/

/-- The lines of raw text. -/
def linesOfBytes (bytes : List UInt8) : List Text :=
  Text.lines (Text.unifyLineEnds (Text.Utf8.decode bytes))

/-- The lines of a file, given what reading it gave; `shown` stands for the file in a notice. -/
def readLinesFrom (shown : Settings.Value) : Except Fault (List UInt8) → Answer
  | .ok bytes => .ofLines (linesOfBytes bytes)
  | .error fault =>
    if fault.isSystem then .of (.ok (some [])) [.notice (.unreadable shown fault)]
    else throw fault

/-- The lines of the file at a path. -/
def readFileLines (read : Text → Except Fault (List UInt8)) (path : Text) : Answer :=
  readLinesFrom (.text path) (read path)

/-! ## Commands -/

/-- What running a command gave. -/
inductive CommandResult where
  /-- It ended with a status. -/
  | finished (output : List UInt8) (complaint : Text) (status : Int)
  /-- There is no such command. -/
  | missing
  /-- It took longer than it was given. -/
  | timedOut
  /-- The system did not run it. -/
  | refused (fault : Fault)
  /-- Something else failed. -/
  | failed (fault : Fault)

/-- A command as it is shown: its words with single spaces between. -/
def commandText (words : List Text) : Text := [' '].intercalate words

/-- Run a command and give the lines of its output. -/
def runCommand (run : List Text → CommandResult) (timeout : Int) (words : List Text) : Answer :=
  let called : JournalEntry := .call { words, timeout }
  let nothing (notice : Log.Notice) : Answer := .of (.ok (some [])) [called, .notice notice]
  match run words with
  | .missing => nothing (.commandMissing (words.headD []))
  | .timedOut => nothing (.commandTimedOut timeout (commandText words))
  | .refused fault => nothing (.commandNotRun (commandText words) fault)
  | .failed fault => .of (.error fault) [called]
  | .finished output complaint status =>
    if status ≠ 0 then
      nothing (.commandFailed (commandText words) status (Text.trim (Text.unifyLineEnds complaint)))
    else .of (.ok (some (linesOfBytes output))) [called]

/-! ## What is open already -/

/-- What is open under a number. -/
inductive Descriptor where
  /-- Something to read: the rest of its bytes, or why it is not read. -/
  | stream (found : Except SystemError (List UInt8))
  /-- A directory with its names. -/
  | directory (names : List Text)

/-- What is open, by number. -/
abbrev Descriptors := Int → Option Descriptor

/-- The number of the standard output stream. -/
def outputNumber : Int := 1

/-- The number of the standard error stream. -/
def errorNumber : Int := 2

/-- The standard streams: an input at its end, and two outputs that are not there to be read. -/
def standardStreams : Descriptors := fun n =>
  if n = 0 then some (.stream (.ok []))
  else if n = outputNumber || n = errorNumber then some (.stream (.error .badDescriptor))
  else none

/-- Numbers below this one can be descriptors. -/
def descriptorLimit : Int := Number.twoTo 31

/-- The descriptor that a setting can be; truth values are numbers. -/
def descriptor? : Value → Option Int
  | .bool b => some (if b then 1 else 0)
  | .int n => if 0 ≤ n && n < descriptorLimit then some n else none
  | _ => none

/-- A descriptor as it is shown. -/
def descriptorText (value : Value) : Text := value.toText.toOption.getD []

/-! ## Opening what a setting names -/

/-- The bytes of the file that a setting names. -/
def readSetting (read : Text → Except Fault (List UInt8)) (opened : Descriptors) (value : Value) :
    Except Fault (List UInt8) :=
  match descriptor? value, value with
  | some n, _ =>
    match opened n with
    | none => .error (.descriptor .badDescriptor none)
    | some (.directory _) => .error (.descriptor .isDirectory (some (descriptorText value)))
    | some (.stream found) => found.mapError (.descriptor · none)
  | none, .int n =>
    if -descriptorLimit ≤ n && n < 0 then .error .negativeDescriptor
    else .error (.pathNotText .int)
  | none, value => value.toPath.bind read

/-- What reading the file that a setting names closes. -/
def closedBy (opened : Descriptors) (value : Value) : Journal :=
  match descriptor? value with
  | none => []
  | some n =>
    match opened n with
    | some (.stream _) => [.closed n]
    | _ => []

/-- The names in the directory that is open under a number; they have no path in front. -/
def listDescriptor (opened : Descriptors) (value : Value) (n : Int) :
    Except Fault (Text × List Text) :=
  match opened n with
  | none => .error (.descriptor .badDescriptor none)
  | some (.directory names) => .ok ([], names)
  | some (.stream _) => .error (.descriptor .notDirectory (some (descriptorText value)))

/-- The directory that a setting names, with its path.  Where the setting is of a foreign kind, so
are the names, and stand for no texts. -/
def listSetting (list : Text → Except Fault (List Text)) (opened : Descriptors) :
    Value → Except Fault (Text × List Text)
  | .text path => (list path).map fun names => (path, names)
  | .null => (list here).map fun names => (here, names)
  | .bool b => listDescriptor opened (.bool b) (if b then 1 else 0)
  | .int n =>
    if descriptorLimit ≤ n then .error (.descriptorOutOfRange true)
    else if n < -descriptorLimit then .error (.descriptorOutOfRange false)
    else if n = -1 then (list here).map fun names => (here, names)
    else listDescriptor opened (.int n) n
  | .foreign f => f.directory.bind fun path => (list path).map fun _ => (path, [])
  | value => .error (.directoryNotText value.kind)

end StorageInventory.Host
