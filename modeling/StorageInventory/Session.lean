import StorageInventory.Device
import StorageInventory.Diagnostics
import StorageInventory.Table
import StorageInventory.Telling

/-!
# Sessions

A session is everything that one collection knows while its passes run: the devices in scope, the
disks found so far, the mount points of partitions, the counts, and the journal.  It is made when a
collection starts and dropped at its end.  Every pass is a function from sessions to sessions.
-/

namespace StorageInventory

/-- The state of one collection. -/
structure Session where
  /-- The devices in scope. -/
  valid : List Text := []
  /-- The disks found so far. -/
  disks : Table Disk := []
  /-- The mount points of partitions. -/
  mounts : Table Text := []
  /-- What the passes counted. -/
  diagnostics : Diagnostics := {}
  /-- The moment of the collection in milliseconds. -/
  timestamp : Int := 0
  /-- The partitions whose minor numbers were asked for, in order. -/
  asked : List Text := []
  /-- What happened so far. -/
  journal : Journal := []

namespace Session

/-- The device is in scope. -/
def isValid (s : Session) (name : Text) : Bool := s.valid.elem name

/-- Count events. -/
def record (s : Session) (source kind : Text) (n : Int) : Session :=
  { s with diagnostics := s.diagnostics.record source kind n }

/-- Count one event. -/
def tick (s : Session) (source kind : Text) : Session := s.record source kind 1

/-- Give a notice. -/
def tell (s : Session) (notice : Log.Notice) : Session :=
  { s with journal := s.journal ++ [.notice notice] }

/-- The disk of a name, an empty one if none is known. -/
def diskOrNew (s : Session) (name : Text) : Disk := (s.disks.get? name).getD { name }

/-- Make sure that a disk of the name is known. -/
def register (s : Session) (name : Text) : Session :=
  if s.disks.has name then s else { s with disks := s.disks.put name { name } }

/-- Put a disk in, in the place of one with the same name. -/
def putDisk (s : Session) (disk : Disk) : Session :=
  { s with disks := s.disks.put disk.name disk }

/-- Change the disk of a name. -/
def updateDisk (s : Session) (name : Text) (change : Disk → Disk) : Session :=
  { s with disks := s.disks.put name (change (s.diskOrNew name)) }

end Session

end StorageInventory
