import StorageInventory.Telling
import StorageInventory.Text.Basic
import StorageInventory.Text.Case

/-!
# Configurations

A configuration is read from one YAML file: the given one if its path is absolute, and otherwise the
first that exists of the system's file, the one in the working directory, and the given one.  If
none was asked for and none exists, everything has its default.  A loader makes a value of the bytes
of the file, or says why it does not.

The typed settings read the entries with their defaults.  Reading a setting as a number can fail;
the others give the configured value as it is, whatever its kind.
-/

namespace StorageInventory.Settings

/-- Where the system keeps its configuration. -/
def systemPath : Text := "/etc/sysinventory.yaml".toList

/-- The configuration in the working directory. -/
def localPath : Text := "./sysinventory.yaml".toList

/-- The name of a configuration that nobody named. -/
def defaultName : Text := "sysinventory.yaml".toList

/-- A configuration: the file that it was read from, whether one was asked for, and its entries. -/
structure Configuration where
  file : Option Text
  isExplicit : Bool
  entries : Entries

/-- The files that exist: their bytes, or why they cannot be read. -/
abbrev Files := Text → Option (Except Fault (List UInt8))

/-- The file to read. -/
def choosePath (files : Files) (isExplicit : Bool) (name : Text) : Option Text :=
  if name.head? = some '/' then some name
  else match [systemPath, localPath, name].find? fun path => (files path).isSome with
    | some path => some path
    | none => if isExplicit then some name else none

/-- Why a loader gives no value. -/
inductive LoadFault where
  /-- The bytes are no well-formed document, for a reason that the loader gives. -/
  | malformed (reason : Text)
  /-- Anything else failed. -/
  | other (fault : Fault)

/-- What a loader makes of bytes. -/
abbrev Loader := List UInt8 → Except LoadFault Value

/-- The entries in the file at a path.  Null, zero, false and whatever is empty count as no
entries. -/
def readEntries (load : Loader) (files : Files) (path : Text) : Except Fault Entries :=
  match files path with
  | none => .error (.configMissing path)
  | some (.error fault) => .error (.configUnreadable fault.message)
  | some (.ok bytes) =>
    match load bytes with
    | .error (.malformed reason) => .error (.configMalformed reason)
    | .error (.other fault) => .error (.configUnreadable fault.message)
    | .ok (.mapping entries) => .ok entries
    | .ok value => if value.isTruthy then .error (.configNotMapping path) else .ok []

namespace Configuration

/-- Read the configuration; the name may be given and empty, which asks for the default name. -/
def load (load : Loader) (files : Files) (name : Option Text) : Telling Configuration :=
  let isExplicit := name.isSome
  let wanted := match name with
    | none | some [] => defaultName
    | some name => name
  match choosePath files isExplicit wanted with
  | none => do
    Telling.tell .noConfiguration
    return { file := none, isExplicit, entries := [] }
  | some path => do
    let entries ← readEntries load files path
    return { file := some path, isExplicit, entries }

/-- The value of a setting. -/
def get (c : Configuration) (path : String) (default : Value) : Value :=
  lookup c.entries path.toList default

/-- A text as a default. -/
def text (s : String) : Value := .text s.toList

/-- The whole section on logging. -/
def logging (c : Configuration) : Value := c.get "logging" (.mapping [])

/-- The whole section on collecting. -/
def collection (c : Configuration) : Value := c.get "collection" (.mapping [])

/-- The level name that an empty one stands for. -/
def defaultLevel : Text := "INFO".toList

/-- The log level in capitals; of several with bars between, the first. -/
def logLevel (c : Configuration) : Except Fault Text :=
  (c.get "logging.level" (.text defaultLevel)).toText.map fun level =>
    match Text.upper (Text.trim ((Text.fields '|' level).headD [])) with
    | [] => defaultLevel
    | name => name

/-- The file that the log goes to. -/
def logFile (c : Configuration) : Value := c.get "logging.file" .null

/-- The form of a log line. -/
def logFormat (c : Configuration) : Value :=
  c.get "logging.format" (text "%(levelname)s %(name)s: %(message)s")

/-- The language of messages. -/
def language (c : Configuration) : Value := c.get "i18n.language" (text "en")

/-- The seconds that every command is given. -/
def commandTimeout (c : Configuration) : Except Fault Int :=
  (c.get "collection.command_timeout" (.int 30)).toInteger

/-- The directory of captured outputs to read instead of running commands. -/
def captureDirectory (c : Configuration) : Value := c.get "collection.capture_dir" .null

/-- The mount table of Linux. -/
def mountsFile (c : Configuration) : Value :=
  c.get "collection.mounts_file" (text "/proc/self/mounts")

/-- The directory that names file systems by UUID. -/
def uuidDirectory (c : Configuration) : Value :=
  c.get "collection.uuid_dir" (text "/dev/disk/by-uuid")

/-- The file with the descriptor counts. -/
def descriptorFile (c : Configuration) : Value :=
  c.get "collection.file_nr" (text "/proc/sys/fs/file-nr")

/-- The indentation of the output; none for a single line. -/
def outputIndent (c : Configuration) : Except Fault (Option Int) :=
  let indent := c.get "output.indent" (.int 2)
  if indent.isTruthy then indent.toInteger.map some else .ok none

end Configuration

end StorageInventory.Settings
