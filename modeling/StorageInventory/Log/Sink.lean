import StorageInventory.Host.Reading
import StorageInventory.Host.Tree
import StorageInventory.Log.Format
import StorageInventory.Settings.Configuration
import StorageInventory.Text.Basic

/-!
# Where log lines go

Log lines go to the standard error stream, as long as it is open, and, if one is configured, to the
end of a file, whose directories are made.  Only notices of at least the configured level are shown,
in the configured language.  The file has every line as soon as it is told, so a run that reads the
file sees the lines so far.
-/

namespace StorageInventory.Log

open Settings (Configuration Value)
open Host (Tree)

/-- The level that shows everything that is told. -/
def verboseLevel : Text := "DEBUG".toList

/-- The least number that is shown, by the name of a level; an unknown name shows informative
notices and graver ones.  Two names stand for other things than levels. -/
def thresholdOf (name : Text) : Except Fault Int :=
  match String.ofList name with
  | "CRITICAL" | "FATAL" => .ok 50
  | "ERROR" => .ok 40
  | "WARNING" | "WARN" => .ok 30
  | "INFO" => .ok 20
  | "DEBUG" => .ok 10
  | "NOTSET" => .ok 0
  | "BASIC_FORMAT" => .error (.unknownLevel "%(levelname)s:%(name)s:%(message)s".toList)
  | "_STYLES" => .error .levelNotName
  | _ => .ok 20

/-- Open the log file at a path: the tree with its directories and with the file, and the file's
place. -/
def openPath (tree : Tree) (path : Text) : Except Fault (Tree × List Text) := do
  let directory := Host.Path.directory path
  let tree ← if directory = [] then .ok tree else tree.makeDirectories directory
  tree.openForAppend (tree.absolute path)

/-- Open the log file that a setting names, if it names one. -/
def openFile (tree : Tree) (setting : Value) : Except Fault (Tree × Option (List Text)) :=
  if !setting.isTruthy then .ok (tree, none)
  else do
    let (tree, place) ← openPath tree (← setting.toPath)
    return (tree, some place)

/-- Where lines go, which, and in what language. -/
structure Sink where
  threshold : Int
  format : Format
  file : Option (List Text)
  language : Translation := .ok

namespace Sink

/-- Set up the log: the tree in which the log file is open, and the sink.  The level is looked at
last, when the file is open already. -/
def ofConfiguration (c : Configuration) (isVerbose : Bool) (tree : Tree) :
    Tree × Except Fault Sink :=
  let settings : Except Fault (Text × Format) := do
    let name ← if isVerbose then .ok verboseLevel else c.logLevel
    let format ← Format.ofValue c.logFormat
    return (name, format)
  match settings with
  | .error fault => (tree, .error fault)
  | .ok (name, format) =>
    match openFile tree c.logFile with
    | .error fault => (tree, .error fault)
    | .ok (tree, file) =>
      (tree, (thresholdOf name).map fun threshold => { threshold, format, file })

/-- A notice is to be shown. -/
def shows (sink : Sink) (notice : Notice) : Bool := sink.threshold ≤ notice.level.number

/-- The line of a notice, if it is shown; one that the format has no form for is not. -/
def line? (sink : Sink) (now : Number.Quantity) (notice : Notice) : Option Text :=
  if sink.shows notice then (sink.format.line (notice.toRecord sink.language now)).toOption
  else none

/-- The lines of all notices of a journal. -/
def text (sink : Sink) (now : Number.Quantity) (journal : Journal) : Text :=
  Text.unlines (journal.notices.filterMap (sink.line? now))

/-- The tree with the lines of a journal in the log file. -/
def follow (sink : Sink) (now : Number.Quantity) (journal : Journal) (tree : Tree) : Tree :=
  match sink.file with
  | none => tree
  | some place => tree.append place fun _ => Text.Utf8.encode (sink.text now journal)

/-- A notice that is to be shown comes when the standard error stream is closed already. -/
def loses (sink : Sink) (journal : Journal) : Bool :=
  (journal.since Host.errorNumber).notices.any sink.shows

end Sink

end StorageInventory.Log
