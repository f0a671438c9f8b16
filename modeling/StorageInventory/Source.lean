import StorageInventory.Telling

/-!
# Sources

A pass reads five listings and, for every partition it finds, the answer to one lookup.  A
`Provider` says what each of them gives.  An answer may be a list of lines, nothing at all, or a
fault; finding it may leave entries in the journal.

Answers that are known beforehand are `Findings`, and `Provider.ofFindings` gives just these.
-/

namespace StorageInventory

/-- What was found at a source: lines, `none` for nothing at all, or a fault. -/
abbrev Finding := Except Fault (Option (List Text))

/-- Asking a source. -/
abbrev Answer := Telling (Option (List Text))

/-- The answer that consists of lines. -/
def Answer.ofLines (lines : List Text) : Answer := pure (some lines)

/-- The lines of an answer; nothing at all counts as no lines. -/
def Answer.toLines (answer : Answer) : Telling (List Text) := (·.getD []) <$> answer

/-- The answers of all sources. -/
structure Provider where
  /-- The names of the devices in scope. -/
  devices : Answer
  /-- The mount table. -/
  mounts : Answer
  /-- The throughput counters. -/
  counters : Answer
  /-- The geometry of the disks. -/
  diskGeometry : Answer
  /-- The geometry of the partitions. -/
  partitionGeometry : Answer
  /-- The minor number of a partition. -/
  minor : Text → Answer

/-- What is found at all sources. -/
structure Findings where
  devices : Finding
  mounts : Finding
  counters : Finding
  diskGeometry : Finding
  partitionGeometry : Finding
  minor : Text → Finding

/-- The provider whose answers are known beforehand. -/
def Provider.ofFindings (f : Findings) : Provider where
  devices := .of f.devices
  mounts := .of f.mounts
  counters := .of f.counters
  diskGeometry := .of f.diskGeometry
  partitionGeometry := .of f.partitionGeometry
  minor := fun name => .of (f.minor name)

/-- The answers of all sources after some entries of the journal. -/
def Provider.after (before : Journal) (p : Provider) : Provider where
  devices := p.devices.after before
  mounts := p.mounts.after before
  counters := p.counters.after before
  diskGeometry := p.diskGeometry.after before
  partitionGeometry := p.partitionGeometry.after before
  minor := fun name => (p.minor name).after before

/-- The answers of all sources with their messages looked up in a language. -/
def Provider.inLanguage (t : Translation) (p : Provider) : Provider where
  devices := p.devices.inLanguage t
  mounts := p.mounts.inLanguage t
  counters := p.counters.inLanguage t
  diskGeometry := p.diskGeometry.inLanguage t
  partitionGeometry := p.partitionGeometry.inLanguage t
  minor := fun name => (p.minor name).inLanguage t

namespace Source

/-! ## The names of the sources in diagnostics -/

/-- The device list. -/
def devices : Text := "kern_disks".toList
/-- The mount table. -/
def mounts : Text := "mount".toList
/-- The throughput counters. -/
def counters : Text := "iostat".toList
/-- The geometry of the disks. -/
def diskGeometry : Text := "geom_disk".toList
/-- The geometry of the partitions. -/
def partitionGeometry : Text := "geom_part".toList
/-- The minor-number lookups. -/
def minor : Text := "minor".toList

end Source

end StorageInventory
