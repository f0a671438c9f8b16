import StorageInventory.Log.Template

/-!
# Notices

Everything that the program tells its log is a constructor of `Notice`, with the data that the
message shows.  A notice has a level, the name of the component that gives it, and a template with
the items for its placeholders, which together are its wording.
-/

namespace StorageInventory.Log

open Settings (Value)

/-- How grave a notice is. -/
inductive Level where
  | debug
  | info
  | warning
  deriving DecidableEq, Repr

/-- The number of a level; graver is larger. -/
def Level.number : Level → Int
  | .debug => 10
  | .info => 20
  | .warning => 30

/-- What is told to the log. -/
inductive Notice where
  /-- A source failed. -/
  | sourceUnavailable (source : Text) (fault : Fault)
  /-- A collection is done. -/
  | collected (disks : Nat) (skipped defaulted : Int)
  /-- A minor-number lookup failed. -/
  | lookupFailed (partition : Text) (fault : Fault)
  /-- A minor-number lookup answered something else than a number. -/
  | unexpectedMinor (partition answer : Text)
  /-- A geometry block of a source names a device that is not in scope. -/
  | outOfScope (source device : Text)
  /-- A file could not be read. -/
  | unreadable (path : Value) (fault : Fault)
  /-- A directory could not be listed. -/
  | unlistable (path : Value) (fault : Fault)
  /-- A command does not exist. -/
  | commandMissing (command : Text)
  /-- A command took too long. -/
  | commandTimedOut (timeout : Int) (command : Text)
  /-- A command could not be run. -/
  | commandNotRun (command : Text) (fault : Fault)
  /-- A command reported failure. -/
  | commandFailed (command : Text) (status : Int) (complaint : Text)
  /-- The descriptor counts are not numbers. -/
  | unexpectedDescriptors (line : Text)
  /-- No configuration file was found. -/
  | noConfiguration
  /-- No collector works on this platform. -/
  | unsupportedPlatform (platform : Text)

namespace Notice

/-- The level of a notice. -/
def level : Notice → Level
  | .sourceUnavailable .. | .commandTimedOut .. | .commandNotRun .. | .unsupportedPlatform .. =>
    .warning
  | .collected .. => .info
  | _ => .debug

/-- The packages of the components. -/
def packageName : Text := "src.sysinventory.".toList

/-- The component that gives a notice. -/
def component (notice : Notice) : Text :=
  packageName ++ (match notice with
    | .sourceUnavailable .. | .collected .. => "collection.disk_collector_bsd"
    | .lookupFailed .. | .unexpectedMinor .. => "collection.disk_aggregator"
    | .outOfScope .. => "collection.disk_parsers_bsd"
    | .unreadable .. | .commandMissing .. | .commandTimedOut .. | .commandNotRun ..
    | .commandFailed .. => "collection.sources"
    | .unlistable .. | .unexpectedDescriptors .. => "collection.filesystem_collector_linux"
    | .noConfiguration => "core.config"
    | .unsupportedPlatform .. => "collection.inventory_collection").toList

/-- The wording of a notice with its placeholders. -/
def template (notice : Notice) : Text :=
  (match notice with
    | .sourceUnavailable .. => "Source %s unavailable: %s"
    | .collected .. => "Collected %d disks (%d lines skipped, %d fields defaulted)"
    | .lookupFailed .. => "Minor number lookup for %s failed: %s"
    | .unexpectedMinor .. => "Unexpected minor number for %s: %r"
    | .outOfScope .. => "Skipping geom block for out-of-scope device %s"
    | .unreadable .. => "Cannot read %s: %s"
    | .unlistable .. => "Cannot list %s: %s"
    | .commandMissing .. => "Command not found: %s"
    | .commandTimedOut .. => "Command timed out after %ss: %s"
    | .commandNotRun .. => "Failed to run %s: %s"
    | .commandFailed .. => "Command %s exited with %s: %s"
    | .unexpectedDescriptors .. => "Unexpected file-nr content: %r"
    | .noConfiguration => "No configuration file found, using defaults"
    | .unsupportedPlatform .. => "Unsupported platform: %s").toList

/-- The items for the placeholders of a notice. -/
def items : Notice → List Item
  | .sourceUnavailable source fault => [.text source, .fault fault]
  | .collected disks skipped defaulted => [.int disks, .int skipped, .int defaulted]
  | .lookupFailed partition fault => [.text partition, .fault fault]
  | .unexpectedMinor partition answer => [.text partition, .text answer]
  | .outOfScope _ device => [.text device]
  | .unreadable path fault => [.value path, .fault fault]
  | .unlistable path fault => [.value path, .fault fault]
  | .commandMissing command => [.text command]
  | .commandTimedOut timeout command => [.int timeout, .text command]
  | .commandNotRun command fault => [.text command, .fault fault]
  | .commandFailed command status complaint => [.text command, .int status, .text complaint]
  | .unexpectedDescriptors line => [.text line]
  | .noConfiguration => []
  | .unsupportedPlatform platform => [.text platform]

/-- The message of a notice; one that cannot be written is its template. -/
def message (notice : Notice) : Text :=
  (fill notice.template (.inOrder notice.items)).toOption.getD notice.template

/-- The wording is looked up in the message catalog of the selected language. -/
def isTranslated : Notice → Bool
  | .sourceUnavailable .. | .collected .. | .commandTimedOut .. | .commandNotRun ..
  | .unsupportedPlatform .. => true
  | _ => false

end Notice

end StorageInventory.Log
