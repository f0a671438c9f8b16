import StorageInventory.CommandLine.Run

/-!
# The program

Gathers the host that a run looks at, runs, and carries the outcome out.  What files a run needs is
known from its arguments and its configuration, so the configuration is gathered first.

Commands are not run from here: each counts as one that the host does not have, so that disks are
told of only from captured outputs.  Free space is not asked for either.
-/

namespace StorageInventory.Main

open Host (Tree Node)

/-- Nodes by their places. -/
abbrev Nodes := List (List Text × Node)

/-- The result of an action, if it does not fail. -/
def attempt {α : Type} (action : IO α) : IO (Option α) := do
  try
    return some (← action)
  catch _ =>
    return none

/-- A path as a place, seen from the working directory. -/
def placeOf (directory : List Text) (path : Text) : List Text :=
  Host.Path.components (Tree.absolute { workingDirectory := directory } path)

/-- The file at a path, if there is one. -/
def gatherFile (directory : List Text) (path : Text) : IO Nodes := do
  match ← attempt (IO.FS.readBinFile (String.ofList path)) with
  | some bytes => return [(placeOf directory path, .file bytes.toList)]
  | none => return []

/-- The directory at a path, if there is one. -/
def gatherDirectory (directory : List Text) (path : Text) : IO Nodes := do
  let isDirectory ← attempt do
    let found ← IO.FS.realPath (String.ofList path)
    found.isDir
  return if isDirectory = some true then [(placeOf directory path, .directory)] else []

/-- The entries of the directory at a path, by name. -/
def gatherNames (path : Text) : IO (List Text) := do
  let names ← attempt do
    let found ← IO.FS.realPath (String.ofList path)
    let entries ← found.readDir
    return entries.toList.map fun entry => entry.fileName.toList
  return names.getD []

/-- The entries of the directory at a path as links to where they lead. -/
def gatherLinks (directory : List Text) (path : Text) : IO Nodes := do
  let names ← gatherNames path
  let links ← names.mapM fun name => do
    let entry := Host.Path.join path name
    match ← attempt (IO.FS.realPath (String.ofList entry)) with
    | some target => return [(placeOf directory entry, Node.link target.toString.toList)]
    | none => return []
  return (← gatherDirectory directory path) ++ links.flatten

/-- The files of a capture. -/
def gatherCapture (directory : List Text) (capture : Text) : IO Nodes := do
  let files := [Provider.devicesFile, Provider.mountsFile, Provider.countersFile,
    Provider.diskGeometryFile, Provider.partitionGeometryFile].map (Host.Path.join capture)
  let minors := Host.Path.join capture Provider.minorDirectory
  let names ← gatherNames minors
  let nodes ← (files ++ names.map (Host.Path.join minors)).mapM (gatherFile directory)
  return nodes.flatten

/-- The text of a setting that names a path. -/
def pathOf : Settings.Value → List Text
  | .text path => if path = [] then [] else [path]
  | _ => []

/-- What a configuration says that a run looks at. -/
def gatherConfigured (directory : List Text) (c : Settings.Configuration)
    (options : CommandLine.Options) : IO Nodes := do
  let captures ← (pathOf (captureDirectory c options.capture)).mapM (gatherCapture directory)
  let files ← (pathOf c.mountsFile ++ pathOf c.descriptorFile ++ pathOf c.logFile).mapM
    (gatherFile directory)
  let logDirectories ← (pathOf c.logFile).mapM fun path =>
    gatherDirectory directory (Host.Path.directory path)
  let uuids ← (pathOf c.uuidDirectory).mapM (gatherLinks directory)
  return (captures ++ files ++ logDirectories ++ uuids).flatten

/-! ## The clock and the platform -/

/-- The text of a file of the system, empty if there is none. -/
def systemText (path : String) : IO Text := do
  let text ← attempt (IO.FS.readFile path)
  return (text.getD "").toList

/-- The moment at which the system started, in seconds. -/
def startSeconds (statistics : Text) : Nat :=
  ((Text.lines statistics).findSome? fun line =>
    match Text.tokens line with
    | [name, value] =>
      if name = "btime".toList then (Number.readInteger value).toOption.map Int.toNat else none
    | _ => none).getD 0

/-- The moment, from the start of the system and the time since. -/
def moment (statistics uptime : Text) : Number.Binary64 :=
  let running := (Text.tokens uptime).headD []
  let hundredths := ((Number.readInteger (running.filter (· ≠ '.'))).toOption.map Int.toNat).getD 0
  Number.Binary64.ofRatio false (startSeconds statistics * 100 + hundredths) 100

/-- The host without its files. -/
def gatherHost : IO Host := do
  let directory ← IO.currentDir
  let config ← IO.getEnv (String.ofList CommandLine.configVariable)
  return {
    tree := { workingDirectory := Host.Path.components directory.toString.toList }
    platform := Text.trim (← systemText "/proc/sys/kernel/ostype")
    now := .binary (moment (← systemText "/proc/stat") (← systemText "/proc/uptime"))
    environment := fun name =>
      if name = CommandLine.configVariable then config.map String.toList else none }

/-- Give a host more files; the working directory is always there. -/
def withNodes (host : Host) (nodes : Nodes) : Host :=
  let tree := host.tree
  let here : List Text × Node := (tree.workingDirectory, .directory)
  { host with tree := { tree with nodes := here :: tree.nodes ++ nodes } }

/-- The host that an invocation looks at. -/
def gather (invocation : CommandLine.Invocation) : IO Host := do
  let host ← gatherHost
  let directory := host.tree.workingDirectory
  let named := (invocation.options.config.toList ++
    (host.environment CommandLine.configVariable).toList).filter (· ≠ [])
  let candidates := [Settings.systemPath, Settings.localPath, Settings.defaultName] ++ named
  let nodes ← candidates.mapM (gatherFile directory)
  let host := withNodes host nodes.flatten
  match CommandLine.loadConfiguration Yaml.loadBytes host invocation.options with
  | .error _ => return host
  | .ok c => return withNodes host (← gatherConfigured directory c invocation.options)

/-! ## Carrying out -/

/-- How the program is used. -/
def usage : String :=
  "Usage: sysinventory disks|filesystems|inventory [--config PATH] [--verbose]\n" ++
  "         disks, inventory: [--capture-dir PATH]   disks: [--diagnostics]\n"

/-- What is said besides the messages of a run. -/
def complaint : CommandLine.Ending → String
  | .misused => usage
  | .failed fault => String.ofList fault.message ++ "\n"
  | _ => ""

/-- Add the messages to the log file. -/
def writeLog (outcome : CommandLine.Outcome) : IO Unit := do
  match outcome.logFile with
  | none => return
  | some place =>
    IO.FS.createDirAll (String.ofList (Host.Path.ofComponents place.dropLast))
    let file ← IO.FS.Handle.mk (String.ofList (Host.Path.ofComponents place)) .append
    file.putStr (String.ofList outcome.messages)

/-- Write what a run wrote. -/
def carryOut (outcome : CommandLine.Outcome) : IO UInt32 := do
  writeLog outcome
  IO.eprint (String.ofList outcome.messages ++ complaint outcome.ending)
  IO.print (String.ofList outcome.output)
  return outcome.exitCode.toUInt32

/-- Run with the given arguments. -/
def run (arguments : List Text) : IO UInt32 := do
  let host ←
    match CommandLine.Invocation.ofArguments arguments with
    | none => gatherHost
    | some invocation => gather invocation
  carryOut (CommandLine.run host arguments)

end StorageInventory.Main

/-- Prints a snapshot of the storage of a host. -/
def main (arguments : List String) : IO UInt32 :=
  StorageInventory.Main.run (arguments.map String.toList)
