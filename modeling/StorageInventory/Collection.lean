import StorageInventory.Pass.DiskGeometry
import StorageInventory.Pass.PartitionGeometry
import StorageInventory.Pass.Rows

/-!
# Collections

A collection reads its sources one after the other, each to its end before the next: devices, mount
table, counters, disk geometry, partition geometry.  A source that fails or gives nothing counts as
empty and costs only what it would have said.  At the end the disks are put in natural order.
-/

namespace StorageInventory

/-- Put the partitions of the disks in order, one disk after the other. -/
def Session.sortPartitions : List Disk → Session → Session × Except Fault (List Disk)
  | [], s => (s, .ok [])
  | disk :: rest, s =>
    match Name.sortByName Partition.name disk.partitions with
    | .error fault => (s, .error fault)
    | .ok sorted =>
      let disk := { disk with partitions := sorted }
      match Session.sortPartitions rest (s.putDisk disk) with
      | (s, .error fault) => (s, .error fault)
      | (s, .ok disks) => (s, .ok (disk :: disks))

/-- The snapshot of what a session has found.  The partitions of the session's disks are put in
order on the way. -/
def Session.snapshot (s : Session) : Session × Except Fault Snapshot :=
  match Name.sortByName Disk.name s.disks.values with
  | .error fault => (s, .error fault)
  | .ok disks =>
    match s.sortPartitions disks with
    | (s, .error fault) => (s, .error fault)
    | (s, .ok disks) =>
      (s, .ok { disks, timestamp := s.timestamp, diagnostics := s.diagnostics.report })

/-- Read one source: its lines, none if it failed or gave nothing, which is counted. -/
def Session.fetch (s : Session) (source : Text) (answer : Answer) : Session × List Text :=
  let (finding, entries) := answer.run s.journal
  let s := { s with journal := s.journal ++ entries }
  let (s, lines) :=
    match finding with
    | .error fault => (s.tell (.sourceUnavailable source fault), [])
    | .ok lines => (s, lines.getD [])
  (if lines = [] then s.tick source EventKind.unavailable else s, lines)

/-- Collect a snapshot. -/
def collect (provider : Provider) (rule : Pass.NamingRule) (timestamp : Int) :
    Session × Except Fault Snapshot :=
  let s : Session := { timestamp }
  let (s, devices) := s.fetch Source.devices provider.devices
  let s := { s with valid := devices }
  let (s, lines) := s.fetch Source.mounts provider.mounts
  let s := Pass.readMountTable lines s
  let (s, lines) := s.fetch Source.counters provider.counters
  let s := Pass.readCounters lines s
  let (s, lines) := s.fetch Source.diskGeometry provider.diskGeometry
  let s := Pass.readDiskGeometry lines s
  let (s, lines) := s.fetch Source.partitionGeometry provider.partitionGeometry
  match Pass.readPartitionGeometry rule (some provider.minor) lines s with
  | (s, some fault) => (s, .error fault)
  | (s, none) =>
    match s.snapshot with
    | (s, .error fault) => (s, .error fault)
    | (s, .ok snapshot) =>
      (s.tell (.collected snapshot.disks.length (s.diagnostics.total EventKind.skipped)
        (s.diagnostics.total EventKind.defaulted)), .ok snapshot)

end StorageInventory
