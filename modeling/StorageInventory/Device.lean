import StorageInventory.Json
import StorageInventory.Text.Basic

/-!
# Disks and partitions

What a snapshot holds, and how it is laid out as JSON.
-/

namespace StorageInventory

/-!
## Records

What a snapshot holds.  A disk owns its partitions.  Numbers that no source gave are zero and texts
that no source gave are empty, so that a missing source leaves no hole in the output.
-/

/-- One addressable region of a disk. -/
structure Partition where
  identification : Text
  name : Text
  sizeBytes : Int := 0
  uuid : Text := []
  kind : Text := []
  mountPoint : Text := []
  minorNumber : Int := 0
  deriving DecidableEq, Repr

/-- One storage device.  The timestamp is that of the counter sample, in milliseconds, and zero for
a device that only a geometry source has named. -/
structure Disk where
  name : Text
  model : Text := []
  serial : Text := []
  sizeBytes : Int := 0
  readsCount : Int := 0
  writesCount : Int := 0
  readBytes : Int := 0
  writeBytes : Int := 0
  transferTimeMs : Int := 0
  timestamp : Int := 0
  partitions : List Partition := []
  deriving DecidableEq, Repr

/-- The result of one collection: disks in natural order, and what the passes counted. -/
structure Snapshot where
  disks : List Disk
  timestamp : Int
  diagnostics : List (Text × List (Text × Int))
  deriving DecidableEq, Repr

/-!
## Reports

How disks, partitions and snapshots are laid out as JSON.
-/

/-- The members of a partition. -/
def Partition.toJson (p : Partition) : Json :=
  .object
    [ ("identification".toList, .text p.identification),
      ("name".toList, .text p.name),
      ("size_bytes".toList, .int p.sizeBytes),
      ("uuid".toList, .text p.uuid),
      ("type".toList, .text p.kind),
      ("mount_point".toList, .text p.mountPoint),
      ("minor_number".toList, .int p.minorNumber) ]

/-- The members of a disk. -/
def Disk.toJson (d : Disk) : Json :=
  .object
    [ ("name".toList, .text d.name),
      ("model".toList, .text d.model),
      ("serial".toList, .text d.serial),
      ("size_bytes".toList, .int d.sizeBytes),
      ("reads_count".toList, .int d.readsCount),
      ("writes_count".toList, .int d.writesCount),
      ("read_bytes".toList, .int d.readBytes),
      ("write_bytes".toList, .int d.writeBytes),
      ("transfer_time_ms".toList, .int d.transferTimeMs),
      ("timestamp".toList, .int d.timestamp),
      ("partitions".toList, .list (d.partitions.map Partition.toJson)) ]

/-- The counts of a collection, source by source. -/
def countsToJson (report : List (Text × List (Text × Int))) : Json :=
  .object (report.map fun (source, kinds) =>
    (source, .object (kinds.map fun (kind, n) => (kind, .int n))))

/-- The members of a snapshot, with the counts on demand. -/
def Snapshot.toJson (snapshot : Snapshot) (withDiagnostics : Bool) : Json :=
  .object <|
    [ ("timestamp".toList, .int snapshot.timestamp),
      ("disks".toList, .list (snapshot.disks.map Disk.toJson)) ]
    ++ if withDiagnostics then [("diagnostics".toList, countsToJson snapshot.diagnostics)] else []

end StorageInventory
