import StorageInventory.Name.NaturalKey
import StorageInventory.Number.Numeral
import StorageInventory.Session
import StorageInventory.Source
import StorageInventory.Text.Basic

/-!
# Attaching partitions to a disk

A block of the partition listing ends with a batch of partitions for its disk.  Their minor numbers
are looked up, and then the disk has them.
-/

namespace StorageInventory

open Text

/-!
## Minor numbers

The minor number of a partition is the first word of the first line of its lookup that is not blank.
Only a name that is a single path component is ever looked up.  A lookup that fails, that has no
such line, or whose word is no whole number gives zero and is counted.
-/

/-- A name that can be looked up: not empty and without a slash. -/
def isPartitionName (name : Text) : Bool := name ≠ [] && !name.elem '/'

/-- Refuse a name that cannot be looked up. -/
def checkPartitionName (name : Text) : Except Fault Unit :=
  if isPartitionName name then .ok () else .error (.partitionName name)

/-- The first line that is not blank, trimmed. -/
def firstLine : List Text → Option Text
  | [] => none
  | line :: rest => if trim line = [] then firstLine rest else some (trim line)

/-- What to do with the answer to a lookup: the number, or a notice to give about it, if any. -/
def readMinor (name : Text) : Finding → Int ⊕ Option Log.Notice
  | .error fault => .inr (some (.lookupFailed name fault))
  | .ok none => .inr (some (.lookupFailed name .noLines))
  | .ok (some lines) =>
    match firstLine lines with
    | none => .inr none
    | some line =>
      match Number.readInteger ((tokens line).headD []) with
      | .ok n => .inl n
      | .error _ => .inr (some (.unexpectedMinor name line))

/-- Ask for the minor number of a partition. -/
def Session.askMinor (s : Session) (lookup : Text → Answer) (name : Text) : Session × Int :=
  let (finding, entries) := (lookup name).run s.journal
  let s := { s with asked := s.asked ++ [name], journal := s.journal ++ entries }
  match readMinor name finding with
  | .inl n => (s, n)
  | .inr none => (s.tick Source.minor EventKind.lookupFailed, 0)
  | .inr (some notice) => ((s.tell notice).tick Source.minor EventKind.lookupFailed, 0)

/-- Find the minor number of a partition; fails only for a name that cannot be looked up. -/
def Session.resolveMinor (s : Session) (lookup : Text → Answer) (name : Text) :
    Session × Except Fault Int :=
  match checkPartitionName name with
  | .error fault => (s, .error fault)
  | .ok () =>
    let (s, n) := s.askMinor lookup name
    (s, .ok n)

/-!
## Batches

A block of the partition listing ends with a batch of partitions for its disk.  Their minor numbers
are looked up one after the other; then the batch is merged with the partitions that the disk has
already, the last one of a name winning, and the result is put in natural order.

A fault leaves the disk as it was: either a name cannot be looked up, or one of the names has no
place in the natural order.
-/

/-- Look up the minor numbers of a batch, in order. -/
def Session.resolveAll (lookup : Text → Answer) :
    List Partition → Session → Session × Except Fault (List Partition)
  | [], s => (s, .ok [])
  | p :: rest, s =>
    match s.resolveMinor lookup p.name with
    | (s, .error fault) => (s, .error fault)
    | (s, .ok n) =>
      match Session.resolveAll lookup rest s with
      | (s, .error fault) => (s, .error fault)
      | (s, .ok resolved) => (s, .ok ({ p with minorNumber := n } :: resolved))

/-- The partitions by name, the last one of a name in the place of the first. -/
def mergePartitions (old new : List Partition) : List Partition :=
  Table.values ((old ++ new).foldl (fun table p => Table.put table p.name p) [])

/-- Merge a batch into a disk's partitions. -/
def Session.mergeInto (s : Session) (disk : Text) (batch : List Partition) :
    Session × Option Fault :=
  match Name.sortByName Partition.name (mergePartitions (s.diskOrNew disk).partitions batch) with
  | .error fault => (s, some fault)
  | .ok sorted => (s.updateDisk disk fun d => { d with partitions := sorted }, none)

/-- Attach a batch of partitions to a disk; without a lookup the minor numbers stay as they are. -/
def Session.attach (s : Session) (lookup : Option (Text → Answer)) (disk : Text)
    (batch : List Partition) : Session × Option Fault :=
  match lookup with
  | none => s.mergeInto disk batch
  | some lookup =>
    match Session.resolveAll lookup batch s with
    | (s, .error fault) => (s, some fault)
    | (s, .ok resolved) => s.mergeInto disk resolved

end StorageInventory
