import StorageInventory.CommandLine.Arguments
import StorageInventory.Inventory
import StorageInventory.Language
import StorageInventory.Log.Sink
import StorageInventory.Yaml.Document

/-!
# Runs

A run loads the configuration, sets up the log, does what it was asked for, and writes one JSON
document.  `start` is a function of the host, of what the arguments ask for and of a loader of
configurations: what the run prints, how it ends, and what it did to the files are all in its
`Outcome`.  `run` reads the arguments and loads YAML.

The indentation of the document is looked at last, when the log is written already.  Reading a
setting that is the number of a standard output stream closes that stream, which shows only in the
end.
-/

namespace StorageInventory.CommandLine

open Settings (Configuration)

/-- How a run ends. -/
inductive Ending where
  /-- With the document that was asked for. -/
  | done
  /-- The arguments are misused. -/
  | misused
  /-- The configuration cannot be loaded. -/
  | misconfigured
  /-- The platform tells of nothing, which the document says. -/
  | unsupported
  /-- Something failed. -/
  | failed (fault : Fault)

/-- The run failed. -/
def Ending.isFailed : Ending → Bool
  | .failed _ => true
  | _ => false

/-- The exit code of an ending, if everything was written. -/
def Ending.exitCode : Ending → Nat
  | .done => 0
  | .misconfigured | .failed _ => 1
  | .misused | .unsupported => 2

/-- What a run did. -/
structure Outcome where
  ending : Ending
  /-- What it wrote to the standard output stream. -/
  output : Text := []
  /-- What it wrote to the standard error stream. -/
  messages : Text := []
  /-- The files that it leaves behind. -/
  tree : Host.Tree
  /-- The place of the log file. -/
  logFile : Option (List Text) := none
  /-- The commands that it ran. -/
  calls : List CommandCall := []
  /-- Something held back for a standard stream could not be written in the end. -/
  isCut : Bool := false

/-- The exit code of a run that could not write all that was held back. -/
def cutCode : Nat := 120

/-- The exit code of a run. -/
def Outcome.exitCode (o : Outcome) : Nat := if o.isCut then cutCode else o.ending.exitCode

/-- The environment variable that names the configuration when no option does. -/
def configVariable : Text := "SYSINVENTORY_CONFIG".toList

/-- Load the configuration. -/
def loadConfiguration (load : Settings.Loader) (host : Host) (options : Options) :
    Except Fault Configuration :=
  let name := match options.config with
    | none | some [] => host.environment configVariable
    | some path => some path
  let files : Settings.Files := fun path =>
    if host.tree.has path then some (host.tree.read path) else none
  (Configuration.load load files name).outcome

/-- How messages are looked up in the configured language. -/
def translation (host : Host) (c : Configuration) : Translation :=
  translationInto (host.catalogue host.tree) c.language

/-- The provider that a collection of disks reads. -/
def diskProvider (host : Host) (c : Configuration) (asked : Option Text) : Except Fault Provider :=
  let capture := captureDirectory c asked
  if capture.isTruthy then .ok (replay host capture) else runCommands host c

/-- A document, and whether the platform could tell of anything. -/
structure Document where
  content : Json
  isSupported : Bool := true

/-- The document of an invocation; what is said on the way is looked up in a language. -/
def Invocation.document (invocation : Invocation) (host : Host) (c : Configuration)
    (t : Translation) : Telling Document :=
  let options := invocation.options
  match invocation.command with
  | .disks => do
    let provider ← diskProvider host c options.capture
    let snapshot ← collectFrom host (provider.inLanguage t)
    return { content := snapshot.toJson options.withDiagnostics }
  | .filesystems => do
    let stores ← (Linux.Places.ofConfiguration c).fileStores host
    return { content := .list (stores.map Linux.FileStore.toJson) }
  | .inventory => do
    let inventory ← Inventory.take host c options.capture t
    let content ← inventory.toJson t
    return { content, isSupported := inventory.isSupported }

/-- Indentations from here on, and below its negative, are not even numbers of characters. -/
def indentLimit : Int := Number.twoTo 63

/-- The layout of the document, given the widest indentation that there is memory for. -/
def layout (widest : Int) (c : Configuration) : Except Fault Json.Layout := do
  match ← c.outputIndent with
  | none => return .oneLine
  | some indent =>
    if indent < -indentLimit || indentLimit ≤ indent then throw .indentTooLarge
    else if widest < indent then throw .outOfMemory
    else return .lines indent.toNat

/-- The text of the document. -/
def print (widest : Int) (c : Configuration) (document : Document) : Except Fault Text :=
  (layout widest c).map fun layout => document.content.toText layout ++ ['\n']

/-- How a run ends that has its document. -/
def Document.ending (document : Document) : Ending :=
  if document.isSupported then .done else .unsupported

/-- The ending and the output of a run that printed a document or failed, with what was closed on
the way. -/
def written (journal : Journal) : Except Fault (Ending × Text) → Ending × Text
  | .error fault => (.failed fault, [])
  | .ok (ending, text) =>
    if journal.closes Host.outputNumber then (.failed (.descriptor .badDescriptor none), [])
    else (ending, text)

/-- Do what was asked for, with the log set up. -/
def Invocation.run (invocation : Invocation) (host : Host) (c : Configuration) (sink : Log.Sink) :
    Outcome :=
  let t := translation host c
  let sink := { sink with language := t }
  let host := { host with follow := sink.follow host.now }
  let (outcome, journal) := ((invocation.document host c t).inLanguage t).run []
  let printed : Except Fault (Ending × Text) := do
    let document ← outcome
    let text ← print host.widestIndent c document
    return (document.ending, text)
  let (ending, output) := written journal printed
  { ending, output
    messages := sink.text host.now (journal.before Host.errorNumber)
    tree := host.follow journal host.tree
    logFile := sink.file
    calls := journal.calls
    isCut := host.isBuffered &&
      (printed.isOk && journal.closes Host.outputNumber
        || sink.loses journal
        || ending.isFailed && journal.closes Host.errorNumber) }

/-- What is said of a configuration that cannot be loaded. -/
def configurationMessage (fault : Fault) : Text :=
  "Configuration error: ".toList ++ fault.message

/-- Run the program for what the arguments ask for. -/
def start (load : Settings.Loader) (host : Host) (invocation : Invocation) : Outcome :=
  match loadConfiguration load host invocation.options with
  | .error fault =>
    { ending := .misconfigured, tree := host.tree
      messages := Text.unlines [configurationMessage fault] }
  | .ok c =>
    match Log.Sink.ofConfiguration c invocation.options.isVerbose host.tree with
    | (tree, .error fault) => { ending := .failed fault, tree }
    | (tree, .ok sink) => invocation.run { host with tree } c sink

/-- Run the program with the given arguments. -/
def run (host : Host) (arguments : List Text) : Outcome :=
  match Invocation.ofArguments arguments with
  | none => { ending := .misused, tree := host.tree }
  | some invocation => start Yaml.loadBytes host invocation

end StorageInventory.CommandLine
