import Mathlib.Tactic
import StorageInventory.Proofs.Collection.Stages
import StorageInventory.Proofs.Pass.PassEvents

/-!
# Operations on a session

A session starts empty and is changed by operations: the four passes, a new scope, and whatever the
store offers to those who use it directly.  An operation may fail, and a session may be used further
after it did.

Every operation keeps the store in order, also where it fails halfway: each record is filed under
its own name, and its partitions have distinct names and stand in natural order.

* `Session.InOrder.step`, `Session.InOrder.run` — the scan of the partition geometry keeps the store
  in order line by line, so also where it stops,
* `perform_inOrder` — one operation keeps the store in order,
* `performAll_inOrder` — so every session that operations reach from an empty one is in order, and
  every snapshot taken on the way shows disks and partitions in natural order, no name twice.
-/

namespace StorageInventory

open Name Pass

/-- An operation on a session. -/
inductive Operation where
  | readMounts (lines : List Text)
  | readCounters (lines : List Text)
  | readDiskGeometry (lines : List Text)
  | readPartitionGeometry (rule : NamingRule) (lookup : Option (Text → Answer)) (lines : List Text)
  /-- Read partition geometry until the naming rule itself fails, at the line after these. -/
  | breakOff (rule : NamingRule) (lookup : Option (Text → Answer)) (lines : List Text)
    (fault : Fault)
  /-- Replace the devices in scope. -/
  | setScope (devices : List Text)
  /-- Make sure that a disk is known. -/
  | register (device : Text)
  /-- Attach a batch to the record of a device. -/
  | attach (lookup : Option (Text → Answer)) (device : Text) (batch : List Partition)
  /-- Attach a batch to a record that is not, or no longer, one of the session's. -/
  | attachApart (lookup : Option (Text → Answer)) (disk : Disk) (batch : List Partition)
  | resolve (lookup : Text → Answer) (name : Text)
  | record (source kind : Text) (n : Int)
  | takeSnapshot
  /-- Put a record in, whose partitions have to be in order. -/
  | putDisk (disk : Disk) (arranged : Arranged Partition.name disk.partitions)

/-- What an operation comes to: a fault, or a snapshot if it takes one. -/
abbrev Outcome := Except Fault (Option Snapshot)

/-- What an operation that takes no snapshot comes to. -/
def Outcome.ofFault : Option Fault → Outcome
  | none => .ok none
  | some fault => .error fault

/-- Perform an operation. -/
def perform : Operation → Session → Session × Outcome
  | .readMounts lines, s => (readMountTable lines s, .ok none)
  | .readCounters lines, s => (Pass.readCounters lines s, .ok none)
  | .readDiskGeometry lines, s => (Pass.readDiskGeometry lines s, .ok none)
  | .readPartitionGeometry rule lookup lines, s =>
    (Pass.readPartitionGeometry rule lookup lines s).map id Outcome.ofFault
  | .breakOff rule lookup lines fault, s =>
    match PartitionScan.run rule lookup lines { session := s } with
    | (scan, some stopped) => (scan.session, .error stopped)
    | (scan, none) => (scan.session.tick Source.partitionGeometry EventKind.lines, .error fault)
  | .setScope devices, s => ({ s with valid := devices }, .ok none)
  | .register device, s => (s.register device, .ok none)
  | .attach lookup device batch, s =>
    ((s.register device).attach lookup device batch).map id Outcome.ofFault
  | .attachApart lookup disk batch, s =>
    -- the record is attached to where it is alone, and the disks stay as they are
    (({ s with disks := [(disk.name, disk)] } : Session).attach lookup disk.name batch).map
      (fun t => { t with disks := s.disks }) Outcome.ofFault
  | .resolve lookup name, s => (s.resolveMinor lookup name).map id fun n => n.map fun _ => none
  | .record source kind n, s => (s.record source kind n, .ok none)
  | .takeSnapshot, s => s.snapshot.map id fun snapshot => snapshot.map some
  | .putDisk disk _, s => (s.putDisk disk, .ok none)

/-- Perform operations one after the other, each whatever the others came to. -/
def performAll : List Operation → Session → Session × List Outcome
  | [], s => (s, [])
  | op :: rest, s =>
    let (s, outcome) := perform op s
    let (s, outcomes) := performAll rest s
    (s, outcome :: outcomes)

/-! ## One operation -/

/-- The store is in order: records are filed under their names, and their partitions arranged. -/
structure Session.InOrder (s : Session) : Prop where
  stored : Stored s.disks
  tidy : Tidy s.disks

namespace Session.InOrder

variable {s t : Session}

/-- Order depends on the disks only. -/
theorem of_disks (h : s.InOrder) (ht : t.disks = s.disks) : t.InOrder :=
  ⟨ht ▸ h.stored, ht ▸ h.tidy⟩

/-- Edits that do not touch partitions keep the store in order. -/
theorem edits (h : s.InOrder) {edits : List DiskEdit} (hedits : ∀ e ∈ edits, IsPlain e) :
    ({ s with disks := applyEdits edits s.disks } : Session).InOrder := by
  refine ⟨h.stored.applyEdits fun e he => (hedits e he).keepsName, ?_⟩
  intro device
  dsimp only
  rw [diskOf_applyEdits, partitions_editsOf hedits]
  exact h.tidy device

/-- Registering a device keeps the order, since its disk has no partitions yet. -/
theorem register (h : s.InOrder) (device : Text) : (s.register device).InOrder := by
  rw [Session.register_eq]
  have hplain : ∀ e ∈ [registration device], IsPlain e := by simp [isPlain_registration]
  exact h.edits hplain

/-- Attaching a batch keeps the order, since what it leaves has settled. -/
theorem attach (h : s.InOrder) (lookup : Option (Text → Answer)) (device : Text)
    (batch : List Partition) : (s.attach lookup device batch).1.InOrder := by
  cases hfault : (s.attach lookup device batch).2 with
  | some fault => exact h.of_disks (Session.attach_of_fault hfault).disks
  | none =>
    obtain ⟨_, result, -, -, hsettles, hstore⟩ := Session.attach_ok hfault
    have hput : (s.updateDisk device fun d => { d with partitions := result }).InOrder :=
      ⟨h.stored.put (h.stored.name_diskOf device), h.tidy.put hsettles.1⟩
    exact hput.of_disks hstore.disks

/-- Opening a block keeps the order. -/
theorem openBlock (h : s.InOrder) (source device : Text) :
    (Pass.openBlock source device s).InOrder := by
  rw [Pass.openBlock]
  split
  · exact h.register device
  · exact h.of_disks rfl

/-- Closing a block keeps the order, whether it fails or not. -/
theorem close {scan : PartitionScan} (h : scan.session.InOrder)
    (lookup : Option (Text → Answer)) : (scan.close lookup).1.session.InOrder := by
  rw [PartitionScan.close]
  cases scan.state.disk? with
  | none => exact h
  | some disk => exact h.attach lookup disk scan.state.batch

/-- A line keeps the order. -/
theorem step {scan : PartitionScan} (h : scan.session.InOrder) (rule : NamingRule)
    (lookup : Option (Text → Answer)) (raw : Text) :
    (scan.step rule lookup raw).1.session.InOrder := by
  let ticked : PartitionScan :=
    { scan with session := scan.session.tick Source.partitionGeometry EventKind.lines }
  have htick : ticked.session.InOrder := h.of_disks rfl
  rw [PartitionScan.step]
  split
  · -- a header attaches the open batch first, and opens its block only if that did not fail
    have hclose := htick.close lookup
    split
    · next heq =>
      rw [heq] at hclose
      exact hclose
    · next heq =>
      rw [heq] at hclose
      exact hclose.openBlock Source.partitionGeometry _
  · exact htick.of_disks (inner_frame rule (Text.trim raw) ticked).1.sameStore.disks

/-- The scan keeps the store in order line by line, also up to a line where it stops. -/
theorem run {scan : PartitionScan} (h : scan.session.InOrder) (rule : NamingRule)
    (lookup : Option (Text → Answer)) (lines : List Text) :
    (PartitionScan.run rule lookup lines scan).1.session.InOrder := by
  induction lines generalizing scan with
  | nil => exact h
  | cons raw rest ih =>
    have hstep := h.step rule lookup raw
    rw [PartitionScan.run]
    split
    · next heq =>
      rw [heq] at hstep
      exact hstep
    · next heq =>
      rw [heq] at hstep
      exact ih hstep

/-- A pass over partitions keeps the order, whether it fails or not. -/
theorem readPartitionGeometry (h : s.InOrder) (rule : NamingRule)
    (lookup : Option (Text → Answer)) (lines : List Text) :
    (Pass.readPartitionGeometry rule lookup lines s).1.InOrder := by
  have hrun : (PartitionScan.run rule lookup lines { session := s }).1.session.InOrder :=
    run h rule lookup lines
  rw [Pass.readPartitionGeometry]
  split
  · next heq =>
    rw [heq] at hrun
    exact hrun
  · next heq =>
    rw [heq] at hrun
    exact hrun.close lookup

/-- To put the partitions of known disks in order again changes nothing. -/
theorem sortPartitions (h : s.InOrder) {disks : List Disk}
    (hdisks : ∀ d ∈ disks, d ∈ s.disks.values) : (s.sortPartitions disks).1 = s := by
  induction disks with
  | nil => rfl
  | cons disk disks ih =>
    have hmem := hdisks disk List.mem_cons_self
    have hsort := sortByName_of_arranged (h.tidy.arranged h.stored.nodup hmem)
    have hput : s.putDisk disk = s := by
      obtain ⟨⟨device, d⟩, hentry, rfl⟩ := List.mem_map.1 hmem
      obtain rfl : d.name = device := h.stored.name_eq _ hentry
      rw [Session.putDisk, Table.put_get? (Table.get?_of_mem h.stored.nodup hentry)]
    have hrest := ih fun d hd => hdisks d (List.mem_cons_of_mem disk hd)
    rw [Session.sortPartitions, hsort]
    dsimp only
    rw [hput]
    split <;> next heq => rw [heq] at hrest; exact hrest

/-- A snapshot has nothing to sort in a session in order. -/
theorem snapshot (h : s.InOrder) : s.snapshot.1 = s := by
  rw [Session.snapshot]
  cases hsort : sortByName Disk.name s.disks.values with
  | error fault => rfl
  | ok disks =>
    have hrest := h.sortPartitions fun d hd => (perm_of_sortByName hsort).mem_iff.1 hd
    dsimp only
    split <;> next heq => rw [heq] at hrest; exact hrest

/-- A snapshot of a session in order has its disks, and the partitions of each, in natural order. -/
theorem arranged_snapshot (h : s.InOrder) {snapshot : Snapshot}
    (hok : s.snapshot.2 = .ok snapshot) :
    Arranged Disk.name snapshot.disks ∧
      ∀ disk ∈ snapshot.disks, Arranged Partition.name disk.partitions := by
  obtain ⟨-, harranged, hperm⟩ := snapshot_ok h.stored h.tidy hok
  refine ⟨harranged, ?_⟩
  intro disk hdisk
  exact h.tidy.arranged h.stored.nodup (hperm.mem_iff.1 hdisk)

end Session.InOrder

/-- Every operation keeps the store in order, whether it fails or not. -/
theorem perform_inOrder {s : Session} (h : s.InOrder) (op : Operation) :
    (perform op s).1.InOrder := by
  cases op with
  | readMounts lines => exact h.of_disks (readMountTable_sameStore lines s).disks
  | readCounters lines =>
    exact (h.edits isPlain_counterEdits).of_disks (readCounters_sameStore lines s).disks
  | readDiskGeometry lines =>
    exact (h.edits isPlain_geometryEdits).of_disks (readDiskGeometry_sameStore lines s).disks
  | readPartitionGeometry rule lookup lines => exact h.readPartitionGeometry rule lookup lines
  | breakOff rule lookup lines fault =>
    -- what a scan has done up to the fault is in order, since every step of it is
    have hrun : (PartitionScan.run rule lookup lines { session := s }).1.session.InOrder :=
      Session.InOrder.run h rule lookup lines
    rw [perform]
    split
    · next heq =>
      rw [heq] at hrun
      exact hrun
    · next heq =>
      rw [heq] at hrun
      exact hrun.of_disks rfl
  | setScope devices => exact h.of_disks rfl
  | register device => exact h.register device
  | attach lookup device batch => exact (h.register device).attach lookup device batch
  | attachApart lookup disk batch => exact h.of_disks rfl
  | resolve lookup name =>
    have hstore : (s.resolveMinor lookup name).1.disks = s.disks := by
      by_cases hname : isPartitionName name = true
      · rw [Session.resolveMinor_of_isPartitionName hname]
        exact (Session.askMinor_sameStore s lookup name).disks
      · rw [Session.resolveMinor_of_not_isPartitionName (by simpa using hname)]
    exact h.of_disks hstore
  | record source kind n => exact h.of_disks rfl
  | takeSnapshot =>
    have hsame : (perform .takeSnapshot s).1 = s := h.snapshot
    exact hsame.symm ▸ h
  | putDisk disk arranged => exact ⟨h.stored.put rfl, h.tidy.put arranged⟩

/-! ## Many operations -/

/-- Any operations keep the order, whether they fail or not. -/
theorem Session.InOrder.performAll {s : Session} (h : s.InOrder) (operations : List Operation) :
    (StorageInventory.performAll operations s).1.InOrder := by
  induction operations generalizing s with
  | nil => exact h
  | cons op rest ih => exact ih (perform_inOrder h op)

/-- A fault is not the outcome of a snapshot. -/
theorem Outcome.ofFault_ne (fault : Option Fault) (snapshot : Snapshot) :
    Outcome.ofFault fault ≠ .ok (some snapshot) := by
  cases fault <;> simp [Outcome.ofFault]

/-- A snapshot that an operation comes to is one of the session it is performed on. -/
theorem snapshot_of_perform {op : Operation} {s : Session} {snapshot : Snapshot}
    (h : (perform op s).2 = .ok (some snapshot)) : s.snapshot.2 = .ok snapshot := by
  cases op with
  | takeSnapshot =>
    obtain ⟨taken, htaken, hsome⟩ := map_eq_ok_iff.1 h
    rwa [Option.some.inj hsome] at htaken
  | readPartitionGeometry rule lookup lines => exact absurd h (Outcome.ofFault_ne _ _)
  | breakOff rule lookup lines fault =>
    rw [perform] at h
    split at h <;> simp at h
  | attach lookup device batch => exact absurd h (Outcome.ofFault_ne _ _)
  | attachApart lookup disk batch => exact absurd h (Outcome.ofFault_ne _ _)
  | resolve lookup name =>
    obtain ⟨_, -, hsome⟩ := map_eq_ok_iff.1 h
    simp at hsome
  | _ => simp [perform] at h

/-- Every snapshot that is taken on the way shows a session that is in order. -/
theorem exists_session_of_mem_outcomes {operations : List Operation} {s : Session}
    (h : s.InOrder) {snapshot : Snapshot}
    (hmem : .ok (some snapshot) ∈ (performAll operations s).2) :
    ∃ t : Session, t.InOrder ∧ t.snapshot.2 = .ok snapshot := by
  induction operations generalizing s with
  | nil => simp [performAll] at hmem
  | cons op rest ih =>
    rcases List.mem_cons.1 hmem with hfirst | hrest
    · exact ⟨s, h, snapshot_of_perform hfirst.symm⟩
    · exact ih (perform_inOrder h op) hrest

/-- Whatever operations are performed on an empty session, its store is in order in the end, and so
is every snapshot that was taken on the way. -/
theorem performAll_inOrder (valid : List Text) (timestamp : Int) (operations : List Operation) :
    Stored (performAll operations { valid, timestamp }).1.disks ∧
      (∀ disk ∈ (performAll operations { valid, timestamp }).1.disks.values,
        Arranged Partition.name disk.partitions) ∧
      ∀ snapshot, .ok (some snapshot) ∈ (performAll operations { valid, timestamp }).2 →
        Arranged Disk.name snapshot.disks ∧
          ∀ disk ∈ snapshot.disks, Arranged Partition.name disk.partitions := by
  have hempty : ({ valid, timestamp } : Session).InOrder :=
    ⟨Stored.nil, fun _ => ⟨by simp [diskOf], by simp [diskOf]⟩⟩
  have hend := hempty.performAll operations
  refine ⟨hend.stored, fun disk hdisk => hend.tidy.arranged hend.stored.nodup hdisk, ?_⟩
  intro snapshot hmem
  obtain ⟨t, ht, hsnapshot⟩ := exists_session_of_mem_outcomes hempty hmem
  exact ht.arranged_snapshot hsnapshot

end StorageInventory
