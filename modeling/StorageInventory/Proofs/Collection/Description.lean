import Mathlib.Tactic
import StorageInventory.Pass.DiskGeometry
import StorageInventory.Pass.PartitionGeometry
import StorageInventory.Pass.Rows
import StorageInventory.Proofs.Name.Arrangement
import StorageInventory.Proofs.Text.Words

/-!
# Descriptions of hosts

A host is described by its disks and their partitions, and rendered as the tools of such a host show
it: one counter row and one block in either geometry for each disk, one row in the mount table for
each partition that is mounted, and one answer for each minor number that is asked for.

`HostDescription.WellFormed` says which descriptions can be told from their rendering, and
`DiskDescription.Describes` what a collection has to say about a disk.
-/

namespace StorageInventory

open Name Pass Text

/-! ## Descriptions -/

/-- What there is to know about a partition.  The note stands in brackets behind the size; a mount
point has options. -/
structure PartitionDescription where
  name : Text
  size : Nat
  note : Text
  uuid : Text
  kind : Text
  mount : Option (Text × Text)
  minor : Nat

/-- What there is to know about a disk. -/
structure DiskDescription where
  name : Text
  reads : Nat
  writes : Nat
  kilobytesRead : Nat
  kilobytesWritten : Nat
  busySeconds : Nat
  size : Nat
  note : Text
  model : Text
  serial : Text
  partitions : List PartitionDescription

/-- A host: its disks. -/
structure HostDescription where
  disks : List DiskDescription

/-- The partitions of a host. -/
def HostDescription.partitions (h : HostDescription) : List PartitionDescription :=
  h.disks.flatMap DiskDescription.partitions

/-! ## Rendering -/

/-- What stands in front of an attribute. -/
def indent : Text := "   ".toList

/-- A line with an attribute. -/
def attributeLine (label value : Text) : Text := indent ++ (label ++ ' ' :: value)

/-- A size with a note in brackets. -/
def sizeValue (size : Nat) (note : Text) : Text := ofNat size ++ ' ' :: '(' :: (note ++ [')'])

/-- The line that opens the block of a disk. -/
def headerLine (disk : Text) : Text := "Geom name: ".toList ++ disk

/-- Words with single spaces between them. -/
def spaced : List Text → Text
  | [] => []
  | [word] => word
  | word :: rest => word ++ ' ' :: spaced rest

namespace PartitionDescription

/-- The line that starts the partition. -/
def nameLine (p : PartitionDescription) : Text := "1. Name: ".toList ++ p.name

/-- The lines that describe the partition. -/
def attributeLines (p : PartitionDescription) : List Text :=
  [attributeLine sizeLabel (sizeValue p.size p.note), attributeLine uuidLabel p.uuid,
    attributeLine typeLabel p.kind]

/-- The row of the mount table, if the partition is mounted. -/
def mountLine (p : PartitionDescription) : Option Text :=
  p.mount.map fun (place, options) =>
    devicePrefix ++ (p.name ++ (mountedOn ++ (place ++ ' ' :: '(' :: (options ++ [')']))))

end PartitionDescription

namespace DiskDescription

/-- The row of the counters. -/
def counterLine (d : DiskDescription) : Text :=
  spaced [d.name, ofNat d.reads, ofNat d.writes, ofNat d.kilobytesRead, ofNat d.kilobytesWritten,
    ['0'], ['0'], ofNat d.busySeconds]

/-- The lines that describe the disk. -/
def attributeLines (d : DiskDescription) : List Text :=
  [attributeLine sizeLabel (sizeValue d.size d.note), attributeLine modelLabel d.model,
    attributeLine serialLabel d.serial]

/-- The lines that describe the partitions of the disk. -/
def partitionLines (d : DiskDescription) : List Text :=
  d.partitions.flatMap fun p => p.nameLine :: p.attributeLines

end DiskDescription

namespace HostDescription

/-- The answer to the question for the minor number of a partition. -/
def minorAnswer (h : HostDescription) (name : Text) : Option (List Text) :=
  (h.partitions.find? (·.name = name)).map fun p => [ofNat p.minor]

/-- What the tools of the host show. -/
def render (h : HostDescription) : Findings where
  devices := .ok (some (h.disks.map DiskDescription.name))
  mounts := .ok (some (h.partitions.filterMap PartitionDescription.mountLine))
  counters := .ok (some (h.disks.map DiskDescription.counterLine))
  diskGeometry := .ok (some (h.disks.flatMap fun d => headerLine d.name :: d.attributeLines))
  partitionGeometry := .ok (some (h.disks.flatMap fun d => headerLine d.name :: d.partitionLines))
  minor := fun name => .ok (h.minorAnswer name)

end HostDescription

/-! ## Well-formed descriptions -/

/-- A natural number that can be read back. -/
def IsReadable (n : Nat) : Prop := (ofNat n).length ≤ Number.digitLimit

/-- The partition can be told from its rendering in the block of the disk. -/
structure PartitionDescription.WellFormed (disk : Text) (p : PartitionDescription) : Prop where
  suffix : ∃ c rest, p.name = disk ++ c :: rest ∧ isDigitLike c = false ∧
    ∀ x ∈ c :: rest, isBlank x = false ∧ x ≠ '/'
  sortable : Sortable p.name
  size : IsReadable p.size
  minor : IsReadable p.minor
  note : includes nameMark p.note = false
  uuid : IsWord p.uuid ∧ includes nameMark p.uuid = false
  kind : IsWord p.kind ∧ includes nameMark p.kind = false
  mount : ∀ m ∈ p.mount, IsWord m.1 ∧ '\n' ∉ m.2

/-- The disk can be told from its rendering. -/
structure DiskDescription.WellFormed (d : DiskDescription) : Prop where
  word : IsWord d.name
  sortable : Sortable d.name
  reads : d.reads < 2 ^ 53
  writes : d.writes < 2 ^ 53
  kilobytesRead : d.kilobytesRead < 2 ^ 53
  kilobytesWritten : d.kilobytesWritten < 2 ^ 53
  busySeconds : 1000 * d.busySeconds < 2 ^ 53
  size : IsReadable d.size
  model : trim d.model = d.model
  serial : trim d.serial = d.serial ∧ includes noSerial d.serial = false
  partitions : ∀ p ∈ d.partitions, p.WellFormed d.name

/-- Every disk can be told from its rendering, and no two disks or partitions share a name. -/
structure HostDescription.WellFormed (h : HostDescription) : Prop where
  disk : ∀ d ∈ h.disks, d.WellFormed
  diskNames : (h.disks.map DiskDescription.name).Nodup
  partitionNames : (h.partitions.map PartitionDescription.name).Nodup

/-! ## What is described -/

/-- The partition as it is described. -/
def PartitionDescription.record (p : PartitionDescription) : Partition where
  identification := p.name
  name := p.name
  sizeBytes := p.size
  uuid := p.uuid
  kind := p.kind
  mountPoint := (p.mount.map Prod.fst).getD []
  minorNumber := p.minor

/-- The disk as it is described, without its partitions: kilobytes are bytes, and seconds are
milliseconds. -/
def DiskDescription.record (timestamp : Int) (d : DiskDescription) : Disk where
  name := d.name
  model := d.model
  serial := d.serial
  sizeBytes := d.size
  readsCount := d.reads
  writesCount := d.writes
  readBytes := (d.kilobytesRead * 1024 : Nat)
  writeBytes := (d.kilobytesWritten * 1024 : Nat)
  transferTimeMs := (d.busySeconds * 1000 : Nat)
  timestamp := timestamp

/-- The disk is the one described, with the partitions described in natural order. -/
structure DiskDescription.Describes (timestamp : Int) (d : DiskDescription) (disk : Disk) :
    Prop where
  record : disk = { d.record timestamp with partitions := disk.partitions }
  partitions : disk.partitions.Perm (d.partitions.map PartitionDescription.record)
  arranged : Arranged Partition.name disk.partitions

/-- The snapshot shows the disks described, and no others, in natural order. -/
structure HostDescription.Describes (timestamp : Int) (h : HostDescription)
    (snapshot : Snapshot) : Prop where
  moment : snapshot.timestamp = timestamp
  arranged : Arranged Disk.name snapshot.disks
  disks : ∃ order, order.Perm h.disks ∧
    List.Forall₂ (DiskDescription.Describes timestamp) order snapshot.disks

end StorageInventory
