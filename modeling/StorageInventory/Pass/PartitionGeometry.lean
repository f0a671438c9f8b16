import StorageInventory.Attach
import StorageInventory.Pass.DiskGeometry
import StorageInventory.Text.Basic

/-!
# Partition geometry

Inside a block in scope, a line with `Name:` ends the partition before it.  If the naming rule
accepts the line it starts a partition, which the lines after it describe, and otherwise they
describe none.  The end of the block attaches its partitions to its disk.

The pass is a scan over the lines.  Its state says which block and which partition are open, and
holds the partitions of the block that are complete.  Attaching can fail, and then the scan stops.
-/

namespace StorageInventory.Pass

open Text

/-- What marks a line that may start a partition. -/
def nameMark : Text := "Name:".toList

/-- A naming rule: the name of the partition that a line starts in the block of a disk, if it starts
one. -/
abbrev NamingRule := Text → Text → Option Text

/-- The rule of the geometry listing: the last word of the line is the name, if it is the name of
the disk followed by something that has no slash and does not start with a digit.  So `ada0p1`
belongs to `ada0`, while `ada0` itself and `ada01` do not. -/
def geometryRule : NamingRule := fun line disk =>
  if !includes nameMark line then none
  else
    let candidate := lastToken line
    if !disk.isPrefixOf candidate || candidate.elem '/' then none
    else match candidate.drop disk.length with
      | [] => none
      | c :: _ => if isDigitLike c then none else some candidate

/-- The position of a scan. -/
inductive PartitionState where
  /-- Outside all blocks in scope. -/
  | noEntity
  /-- In the block of a disk, outside its partitions. -/
  | inDisk (disk : Text) (complete : List Partition)
  /-- In a partition of a disk's block. -/
  | inPartition (disk : Text) (complete : List Partition) (pending : Partition)
  deriving DecidableEq

namespace PartitionState

/-- The disk of the open block. -/
def disk? : PartitionState → Option Text
  | .noEntity => none
  | .inDisk disk _ => some disk
  | .inPartition disk _ _ => some disk

/-- The partition that is open. -/
def pending? : PartitionState → Option Partition
  | .inPartition _ _ pending => some pending
  | _ => none

/-- The complete partitions of the open block. -/
def complete : PartitionState → List Partition
  | .noEntity => []
  | .inDisk _ complete => complete
  | .inPartition _ complete _ => complete

/-- The partitions of the open block, with the open one last. -/
def batch (state : PartitionState) : List Partition := state.complete ++ state.pending?.toList

end PartitionState

/-- The beginning of the line with the identifier of a partition. -/
def uuidLabel : Text := "rawuuid:".toList

/-- The beginning of the line with the type of a partition. -/
def typeLabel : Text := "type:".toList

/-- Read one line that describes a partition. -/
def readPartitionAttribute (line : Text) (p : Partition) (s : Session) : Partition × Session :=
  match tokens line with
  | _ :: value :: _ =>
    if sizeLabel.isPrefixOf line then
      match readSize value with
      | some n => ({ p with sizeBytes := n }, s)
      | none => ({ p with sizeBytes := 0 }, s.tick Source.partitionGeometry EventKind.defaulted)
    else if uuidLabel.isPrefixOf line then ({ p with uuid := value }, s)
    else if typeLabel.isPrefixOf line then ({ p with kind := value }, s)
    else (p, s)
  | _ => (p, if line = [] then s else s.tick Source.partitionGeometry EventKind.skipped)

/-- The partition that a line starts. -/
def newPartition (s : Session) (name : Text) : Partition :=
  { identification := name, name := name, mountPoint := (s.mounts.get? name).getD [] }

/-- The scan under way. -/
structure PartitionScan where
  state : PartitionState := .noEntity
  session : Session

namespace PartitionScan

/-- Attach the partitions of the open block to its disk. -/
def close (lookup : Option (Text → Answer)) (scan : PartitionScan) :
    PartitionScan × Option Fault :=
  match scan.state.disk? with
  | none => ({ scan with state := .noEntity }, none)
  | some disk =>
    let (s, fault) := scan.session.attach lookup disk scan.state.batch
    ({ state := .noEntity, session := s }, fault)

/-- Open the block of a device. -/
def enter (device : Text) (scan : PartitionScan) : PartitionScan :=
  { state := if scan.session.isValid device then .inDisk device [] else .noEntity
    session := openBlock Source.partitionGeometry device scan.session }

/-- Read a line that opens no block. -/
def inner (rule : NamingRule) (line : Text) (scan : PartitionScan) : PartitionScan :=
  match scan.state.disk? with
  | none => { scan with session := passOver Source.partitionGeometry line scan.session }
  | some disk =>
    if includes nameMark line then
      match rule line disk with
      | none => { scan with state := .inDisk disk scan.state.batch }
      | some name =>
        { scan with
          state := .inPartition disk scan.state.batch (newPartition scan.session name) }
    else match scan.state with
      | .inPartition disk complete pending =>
        let (pending, s) := readPartitionAttribute line pending scan.session
        { state := .inPartition disk complete pending, session := s }
      | _ => scan

/-- Read one line. -/
def step (rule : NamingRule) (lookup : Option (Text → Answer)) (scan : PartitionScan)
    (raw : Text) : PartitionScan × Option Fault :=
  let line := trim raw
  let scan := { scan with session := scan.session.tick Source.partitionGeometry EventKind.lines }
  if isBlockHeader line then
    match scan.close lookup with
    | (scan, some fault) => (scan, some fault)
    | (scan, none) => (scan.enter (lastToken line), none)
  else (scan.inner rule line, none)

/-- The scan after the lines, or where it stopped. -/
def run (rule : NamingRule) (lookup : Option (Text → Answer)) :
    List Text → PartitionScan → PartitionScan × Option Fault
  | [], scan => (scan, none)
  | line :: rest, scan =>
    match scan.step rule lookup line with
    | (scan, some fault) => (scan, some fault)
    | (scan, none) => run rule lookup rest scan

end PartitionScan

/-- Read a listing of partition geometry. -/
def readPartitionGeometry (rule : NamingRule) (lookup : Option (Text → Answer))
    (lines : List Text) (s : Session) : Session × Option Fault :=
  match PartitionScan.run rule lookup lines { session := s } with
  | (scan, some fault) => (scan.session, some fault)
  | (scan, none) =>
    let (scan, fault) := scan.close lookup
    (scan.session, fault)

end StorageInventory.Pass
