import StorageInventory.Host.Reading
import StorageInventory.Host.Tree
import StorageInventory.Linux.MountTable
import StorageInventory.Number.Binary64

/-!
# Hosts

A host is everything outside that a run looks at: its files, what is open when it starts, what its
commands answer, the space below its mounts, its platform, the clock, the environment, and what its
catalogues say.  It is data: a run is a function of it.  Its files change only by what is told to
the log, if the log is written to one of them, and what is open only by being read to its end.

The standard streams are open, and what is written to them arrives as long as they are.
-/

namespace StorageInventory

/-- A host at one moment. -/
structure Host where
  /-- The files, with the working directory. -/
  tree : Host.Tree := {}
  /-- What becomes of the files when the journal is written. -/
  follow : Journal → Host.Tree → Host.Tree := fun _ tree => tree
  /-- What is open at the start. -/
  opened : Host.Descriptors := Host.standardStreams
  /-- What cannot be written to a standard stream is held back until the run ends. -/
  isBuffered : Bool := true
  /-- What running a command gives. -/
  run : List Text → Host.CommandResult := fun _ => .missing
  /-- The free and the total space below a path, or why it cannot be told. -/
  spaceOf : Linux.SpaceOf := fun path => .error (.system .noEntry path)
  /-- The name of the platform. -/
  platform : Text
  /-- The moment in seconds since the beginning of 1970. -/
  now : Number.Quantity
  /-- The value of an environment variable. -/
  environment : Text → Option Text := fun _ => none
  /-- What looking a message up in a language gives, with the files as they are; where there is no
  catalogue of the language, a message stands for itself. -/
  catalogue : Host.Tree → Text → Translation := fun _ _ => .ok
  /-- The widest indentation that there is memory for. -/
  widestIndent : Int := Number.twoTo 40

namespace Host

/-- The moment in milliseconds, without parts of one; an infinite number of them cannot be told. -/
def milliseconds (host : Host) : Except Fault Int :=
  match host.now.scaled? 1000 with
  | some n => .ok n
  | none => .error .infinityToInteger

/-- The files as they are after what has been told so far. -/
def files (host : Host) : Telling Host.Tree := do
  return host.follow (← Telling.past) host.tree

/-- What is open after what has been told so far. -/
def descriptors (host : Host) : Telling Host.Descriptors := do
  let past ← Telling.past
  return fun n => if past.closes n then none else host.opened n

end Host

end StorageInventory
