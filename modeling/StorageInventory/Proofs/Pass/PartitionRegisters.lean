import Mathlib.Tactic
import StorageInventory.Proofs.Pass.DiskEdits
import StorageInventory.Proofs.Pass.MuteLines
import StorageInventory.Proofs.Store.Attaching

/-!
# The partition scan with registers

The scan over partition geometry can also be kept in registers that are written one by one: where it
stands, the disk at hand, the partition at hand, and the partitions that are complete.  Then nothing
rules out that they contradict each other, and a line may need a disk or a partition from a register
that is empty.

* `PartitionRegisters.Coherent` — the registers agree with each other and with the lines so far,
* `PartitionRegisters.step_tracks` — one line keeps them so, and does what it does to the scan,
* `PartitionRegisters.parse_eq` — a whole listing does what the scan does.

The invariant needs the lines: the disk at hand is the one that is stored under the device of the
block that is open, if the device is in scope.
-/

namespace StorageInventory.Pass

open Table Text

/-- Where a scan stands. -/
inductive Position where
  /-- Outside all blocks in scope. -/
  | noEntity
  /-- In the block of a disk, outside its partitions. -/
  | inDisk
  /-- In a partition of a disk's block. -/
  | inPartition
  deriving DecidableEq

/-- Why registers go no further. -/
inductive Halt where
  /-- Partitions could not be attached. -/
  | fault (s : Session) (fault : Fault)
  /-- A register was empty. -/
  | missing

/-- A disk at hand: the device under which it is stored, and its record. -/
structure Held where
  device : Text
  record : Disk

/-! ## The open block -/

/-- A header at the end opens its own device. -/
theorem openDevice_append_header {raw : Text} (h : isBlockHeader (trim raw) = true)
    (before : List Text) : openDevice (before ++ [raw]) = some (lastToken raw) := by
  simp [openDevice, List.filter_append, h]

/-- A line at the end that is no header opens nothing. -/
theorem openDevice_append_line {raw : Text} (h : isBlockHeader (trim raw) = false)
    (before : List Text) : openDevice (before ++ [raw]) = openDevice before := by
  simp [openDevice, List.filter_append, h]

/-- The device of the last block that some lines open, if it is in scope. -/
def deviceInScope (valid : Text → Bool) (lines : List Text) : Option Text :=
  (openDevice lines).filter valid

/-- At a header the device at hand is its own, if that is in scope. -/
theorem deviceInScope_header {raw : Text} (h : isBlockHeader (trim raw) = true)
    (valid : Text → Bool) (before : List Text) :
    deviceInScope valid (before ++ [raw]) =
      if valid (lastToken raw) then some (lastToken raw) else none := by
  rw [deviceInScope, openDevice_append_header h, Option.filter_some]

/-- At another line the device at hand stays. -/
theorem deviceInScope_line {raw : Text} (h : isBlockHeader (trim raw) = false)
    (valid : Text → Bool) (before : List Text) :
    deviceInScope valid (before ++ [raw]) = deviceInScope valid before := by
  rw [deviceInScope, openDevice_append_line h, deviceInScope]

/-- No device is at hand exactly if the last one that was opened is not in scope. -/
theorem deviceInScope_eq_none_iff {valid : Text → Bool} {lines : List Text} :
    deviceInScope valid lines = none ↔
      ∀ device, openDevice lines = some device → valid device = false := by
  rw [deviceInScope]
  cases openDevice lines <;> simp

/-- The disk of a device in scope is stored when its block is opened. -/
theorem get?_openBlock {s : Session} {device : Text} (h : s.isValid device = true) (source : Text) :
    (openBlock source device s).disks.get? device =
      some ((openBlock source device s).diskOrNew device) := by
  rw [Session.diskOrNew_eq, (openBlock_sameStore source device s).disks, if_pos h]
  exact get?_of_mem_keys (mem_keys_applyEdits.2 (.inl (List.mem_singleton_self device)))

/-! ## Partition geometry -/

/-- The registers of a scan over partition geometry. -/
structure PartitionRegisters where
  position : Position := .noEntity
  disk : Option Held := none
  partition : Option Partition := none
  finished : List Partition := []
  session : Session

namespace PartitionRegisters

/-- The partition at hand is complete. -/
def flush (r : PartitionRegisters) : PartitionRegisters :=
  match r.partition with
  | none => r
  | some p => { r with finished := r.finished ++ [p], partition := none }

/-- Nothing is at hand but perhaps a partition. -/
def clear (r : PartitionRegisters) : PartitionRegisters :=
  { r with finished := [], disk := none, position := .noEntity }

/-- Attach the partitions of the block to its disk. -/
def finish (lookup : Option (Text → Answer)) (r : PartitionRegisters) :
    Except Halt PartitionRegisters :=
  match r.flush.disk with
  | none => .ok r.flush.clear
  | some disk =>
    match r.flush.session.attach lookup disk.device r.flush.finished with
    | (s, some fault) => .error (.fault s fault)
    | (s, none) => .ok { r.flush with session := s }.clear

/-- Take the disk of a device to hand, if it is in scope. -/
def hold (device : Text) (r : PartitionRegisters) : PartitionRegisters :=
  let s := openBlock Source.partitionGeometry device r.session
  if r.session.isValid device then
    { r with disk := some ⟨device, s.diskOrNew device⟩, position := .inDisk, session := s }
  else { r with session := s }

/-- A header ends the block before it and opens its own. -/
def enterDisk (lookup : Option (Text → Answer)) (device : Text) (r : PartitionRegisters) :
    Except Halt PartitionRegisters :=
  (r.finish lookup).map (hold device)

/-- A line with the name mark ends the partition before it and may start its own. -/
def enterPartition (rule : NamingRule) (line : Text) (r : PartitionRegisters) :
    Except Halt PartitionRegisters :=
  match r.flush.disk with
  | none => .error .missing
  | some disk =>
    match rule line disk.device with
    | none => .ok { r.flush with position := .inDisk }
    | some name =>
      .ok { r.flush with
        partition := some (newPartition r.flush.session name), position := .inPartition }

/-- Any other line describes the partition at hand. -/
def applyAttribute (line : Text) (r : PartitionRegisters) : Except Halt PartitionRegisters :=
  match r.partition with
  | none => .error .missing
  | some p =>
    let (p, s) := readPartitionAttribute line p r.session
    .ok { r with partition := some p, session := s }

/-- Read a line that opens no block. -/
def inner (rule : NamingRule) (line : Text) (r : PartitionRegisters) :
    Except Halt PartitionRegisters :=
  if r.position = .noEntity then
    .ok { r with session := passOver Source.partitionGeometry line r.session }
  else if includes nameMark line then r.enterPartition rule line
  else if r.position = .inPartition then r.applyAttribute line
  else .ok r

/-- Read one line. -/
def step (rule : NamingRule) (lookup : Option (Text → Answer)) (r : PartitionRegisters)
    (raw : Text) : Except Halt PartitionRegisters :=
  let line := trim raw
  let r := { r with session := r.session.tick Source.partitionGeometry EventKind.lines }
  if isBlockHeader line then r.enterDisk lookup (lastToken line) else r.inner rule line

/-- Read some lines.  What stands in the registers after each line of a listing is what stands there
after the lines up to it. -/
def run (rule : NamingRule) (lookup : Option (Text → Answer)) (lines : List Text)
    (r : PartitionRegisters) : Except Halt PartitionRegisters :=
  lines.foldlM (step rule lookup) r

/-- Read a listing to its end. -/
def parse (rule : NamingRule) (lookup : Option (Text → Answer)) (lines : List Text)
    (r : PartitionRegisters) : Except Halt PartitionRegisters :=
  (run rule lookup lines r).bind (finish lookup)

/-- The state that the registers stand for. -/
def state (r : PartitionRegisters) : PartitionState :=
  match r.disk, r.partition with
  | none, _ => .noEntity
  | some disk, none => .inDisk disk.device r.finished
  | some disk, some p => .inPartition disk.device r.finished p

/-- The scan that the registers stand for. -/
def scan (r : PartitionRegisters) : PartitionScan := { state := r.state, session := r.session }

/-- The registers agree with each other and with the lines that were read. -/
structure Coherent (valid : Text → Bool) (lines : List Text) (r : PartitionRegisters) : Prop where
  scope : r.session.isValid = valid
  noEntity_iff : r.position = .noEntity ↔ r.disk = none
  inPartition_iff : r.position = .inPartition ↔ r.partition ≠ none
  idle : r.disk = none → r.partition = none ∧ r.finished = []
  atHand : r.disk.map Held.device = deviceInScope valid lines
  stored : ∀ disk, r.disk = some disk → r.session.disks.get? disk.device = some disk.record

/-- Nothing is at hand. -/
structure AtRest (r : PartitionRegisters) : Prop where
  position : r.position = .noEntity
  disk : r.disk = none
  partition : r.partition = none
  finished : r.finished = []

/-- The registers end as a scan does, coherent unless there is a fault.  There is no such end for an
empty register. -/
inductive Tracks (valid : Text → Bool) (lines : List Text) :
    Except Halt PartitionRegisters → PartitionScan × Option Fault → Prop
  | ok {r : PartitionRegisters} (h : r.Coherent valid lines) :
      Tracks valid lines (.ok r) (r.scan, none)
  | fault {s : Session} {fault : Fault} {scan : PartitionScan} (h : scan.session = s) :
      Tracks valid lines (.error (.fault s fault)) (scan, some fault)

variable {rule : NamingRule} {valid : Text → Bool} {before : List Text} {r : PartitionRegisters}

/-- Coherent registers track the scan that they stand for. -/
theorem Tracks.of_eq {scan : PartitionScan} (heq : r.scan = scan) (h : r.Coherent valid before) :
    Tracks valid before (.ok r) (scan, none) := heq ▸ .ok h

/-- Flushing leaves the disk register. -/
theorem flush_disk (r : PartitionRegisters) : r.flush.disk = r.disk := by
  rw [flush]
  split <;> rfl

/-- Flushing leaves the session. -/
theorem flush_session (r : PartitionRegisters) : r.flush.session = r.session := by
  rw [flush]
  split <;> rfl

/-- Flushing empties the partition register. -/
theorem flush_partition (r : PartitionRegisters) : r.flush.partition = none := by
  rw [flush]
  split <;> simp_all

/-- The state that the registers stand for has the disk of the disk register. -/
theorem disk?_state (r : PartitionRegisters) : r.state.disk? = r.disk.map Held.device := by
  rw [state]
  split <;> simp_all [PartitionState.disk?]

/-- What is flushed are the partitions of the open block. -/
theorem batch_state {disk : Held} (h : r.disk = some disk) : r.state.batch = r.flush.finished := by
  rw [state, flush, h]
  cases r.partition <;> simp [PartitionState.batch, PartitionState.complete,
    PartitionState.pending?]

/-- Attaching a batch leaves the scope. -/
theorem scope_attach {s : Session} {lookup : Option (Text → Answer)} {device : Text}
    {batch : List Partition} (h : (s.attach lookup device batch).2 = none) :
    (s.attach lookup device batch).1.isValid = s.isValid := by
  obtain ⟨-, result, -, -, -, hstore⟩ := Session.attach_ok h
  exact hstore.isValid

/-- The end of a block does what it does to the scan, and leaves nothing at hand. -/
theorem finish_tracks (lookup : Option (Text → Answer)) (h : r.Coherent valid before) :
    (∃ s fault scan, r.finish lookup = .error (.fault s fault) ∧
        r.scan.close lookup = (scan, some fault) ∧ scan.session = s) ∨
      ∃ r', r.finish lookup = .ok r' ∧ r.scan.close lookup = (r'.scan, none) ∧ r'.AtRest ∧
        r'.session.isValid = valid := by
  have hdisk? : r.scan.state.disk? = r.disk.map Held.device := disk?_state r
  rw [finish, PartitionScan.close, hdisk?, flush_disk, flush_session]
  cases hdisk : r.disk with
  | none =>
    -- with no disk at hand there is nothing to flush and nothing to attach
    obtain ⟨hpartition, -⟩ := h.idle hdisk
    have hflush : r.flush = r := by rw [flush, hpartition]
    refine .inr ⟨_, rfl, ?_, ⟨rfl, rfl, ?_, rfl⟩, ?_⟩
    · rw [hflush]
      rfl
    · exact flush_partition r
    · rw [hflush]
      exact h.scope
  | some disk =>
    have hbatch : r.scan.state.batch = r.flush.finished := batch_state hdisk
    have hsession : r.scan.session = r.session := rfl
    simp only [Option.map_some, hbatch, hsession]
    rcases hattach : r.session.attach lookup disk.device r.flush.finished with ⟨s, _ | fault⟩
    · have hscope := scope_attach (congrArg Prod.snd hattach)
      rw [hattach] at hscope
      exact .inr ⟨_, rfl, rfl, ⟨rfl, rfl, flush_partition r, rfl⟩, hscope.trans h.scope⟩
    · exact .inl ⟨_, _, _, rfl, rfl, rfl⟩

/-- A header in scope takes its disk to hand, and one out of scope takes none. -/
theorem hold_coherent (before : List Text) {raw : Text} (hraw : isBlockHeader (trim raw) = true)
    (hrest : r.AtRest) (hscope : r.session.isValid = valid) :
    (r.hold (lastToken raw)).Coherent valid (before ++ [raw]) := by
  have hdevice := deviceInScope_header hraw valid before
  have hkept : (openBlock Source.partitionGeometry (lastToken raw) r.session).isValid = valid :=
    (openBlock_sameStore _ _ _).isValid.trans hscope
  rw [hold, hscope]
  split
  · next hvalid =>
    refine ⟨hkept, by simp, by simp [hrest.partition], by simp, ?_, fun disk hdisk => ?_⟩
    · rw [hdevice, if_pos hvalid, Option.map_some]
    · obtain rfl := Option.some.inj hdisk
      exact get?_openBlock (hscope ▸ hvalid) Source.partitionGeometry
  · next hvalid =>
    refine ⟨hkept, by simp [hrest.position, hrest.disk], by simp [hrest.position, hrest.partition],
      fun _ => ⟨hrest.partition, hrest.finished⟩, ?_, by simp [hrest.disk]⟩
    rw [hdevice, if_neg hvalid, hrest.disk, Option.map_none]

/-- Holding a device at rest is entering it in the scan. -/
theorem scan_hold (hrest : r.AtRest) (device : Text) :
    (r.hold device).scan = r.scan.enter device := by
  rw [hold, PartitionScan.enter, scan]
  have hsession : r.scan.session = r.session := rfl
  rw [hsession]
  split
  · simp [state, hrest.partition, hrest.finished]
  · simp [state, hrest.disk]

/-- Entering a disk tracks a scan that closes the open block and enters the next. -/
theorem enterDisk_tracks (lookup : Option (Text → Answer)) {raw : Text}
    (hraw : isBlockHeader (trim raw) = true) (h : r.Coherent valid before) :
    Tracks valid (before ++ [raw]) (r.enterDisk lookup (lastToken raw))
      (match r.scan.close lookup with
        | (scan, some fault) => (scan, some fault)
        | (scan, none) => (scan.enter (lastToken raw), none)) := by
  rcases finish_tracks lookup h with
    ⟨s, fault, scan, hfinish, hclose, hsession⟩ | ⟨r', hfinish, hclose, hrest, hscope⟩
  · rw [enterDisk, hfinish, hclose]
    exact .fault hsession
  · have hheld := hold_coherent before hraw hrest hscope
    rw [enterDisk, hfinish, hclose]
    dsimp only
    rw [← scan_hold hrest]
    exact .ok hheld

/-- What is said of the lines stays true behind a line that opens no block. -/
theorem Coherent.line {raw : Text} (hraw : isBlockHeader (trim raw) = false)
    (h : r.Coherent valid before) {r' : PartitionRegisters}
    (hposition : r'.position = .noEntity ↔ r'.disk = none)
    (hpartition : r'.position = .inPartition ↔ r'.partition ≠ none) (hdisk : r'.disk = r.disk)
    (hidle : r.disk = none → r'.partition = none ∧ r'.finished = [])
    (hscope : r'.session.isValid = r.session.isValid)
    (hdisks : r'.session.disks = r.session.disks) : r'.Coherent valid (before ++ [raw]) where
  scope := hscope.trans h.scope
  noEntity_iff := hposition
  inPartition_iff := hpartition
  idle hnone := hidle (hdisk ▸ hnone)
  atHand := by rw [hdisk, h.atHand, deviceInScope_line hraw]
  stored disk hsome := by
    rw [hdisks]
    exact h.stored disk (hdisk ▸ hsome)

/-- In a disk, the registers stand for a scan whose partitions are finished. -/
theorem scan_of_inDisk {disk : Held} (hdisk : r.disk = some disk)
    (hpartition : r.partition = none) :
    r.scan = { state := .inDisk disk.device r.finished, session := r.session } := by
  rw [scan, state, hdisk, hpartition]

/-- In a partition, the registers stand for a scan with that partition pending. -/
theorem scan_of_inPartition {disk : Held} {p : Partition} (hdisk : r.disk = some disk)
    (hpartition : r.partition = some p) :
    r.scan = { state := .inPartition disk.device r.finished p, session := r.session } := by
  rw [scan, state, hdisk, hpartition]

/-- Outside the blocks in scope a line is passed over. -/
theorem passOver_tracks {raw : Text} (hraw : isBlockHeader (trim raw) = false)
    (h : r.Coherent valid before) (hdisk : r.disk = none) :
    Tracks valid (before ++ [raw]) (r.inner rule (trim raw))
      (r.scan.inner rule (trim raw), none) := by
  have hpass : (passOver Source.partitionGeometry (trim raw) r.session).SameStore r.session := by
    rw [passOver]
    split <;> exact ⟨rfl, rfl, rfl, rfl⟩
  have hdisk? : r.scan.state.disk? = none := by rw [scan, disk?_state, hdisk, Option.map_none]
  rw [inner, if_pos (h.noEntity_iff.2 hdisk), PartitionScan.inner, hdisk?]
  exact .ok (h.line hraw h.noEntity_iff h.inPartition_iff rfl h.idle hpass.isValid hpass.disks)

/-- In a block, a line with the name mark has a disk to be judged by. -/
theorem enterPartition_tracks {raw : Text} (hraw : isBlockHeader (trim raw) = false)
    (h : r.Coherent valid before) {disk : Held} (hdisk : r.disk = some disk)
    (hmark : includes nameMark (trim raw) = true) :
    Tracks valid (before ++ [raw]) (r.enterPartition rule (trim raw))
      (r.scan.inner rule (trim raw), none) := by
  have hdisk? : r.scan.state.disk? = some disk.device := by
    rw [scan, disk?_state, hdisk, Option.map_some]
  have hbatch : r.scan.state.batch = r.flush.finished := batch_state hdisk
  have hflush : r.flush.disk = some disk := (flush_disk r).trans hdisk
  have hsession : r.flush.session = r.session := flush_session r
  -- flushing comes first in the registers, and completes the batch in the scan
  have hsome : ∀ {P : Prop}, r.disk = none → P := fun hnone => by simp [hdisk] at hnone
  rw [enterPartition, hflush, PartitionScan.inner, hdisk?]
  dsimp only
  rw [if_pos hmark, hbatch]
  cases rule (trim raw) disk.device with
  | none =>
    refine .of_eq ?_ (h.line hraw (by simp [hflush]) (by simp [flush_partition]) (flush_disk r)
      hsome (congrArg Session.isValid hsession) (congrArg Session.disks hsession))
    exact (scan_of_inDisk (r := { r.flush with position := .inDisk }) hflush
      (flush_partition r)).trans (congrArg (PartitionScan.mk _) hsession)
  | some name =>
    refine .of_eq ?_ (h.line hraw (by simp [hflush]) (by simp) (flush_disk r) hsome
      (congrArg Session.isValid hsession) (congrArg Session.disks hsession))
    rw [hsession]
    exact scan_of_inPartition hflush rfl

/-- A line that describes a partition has a partition to describe. -/
theorem applyAttribute_tracks {raw : Text} (hraw : isBlockHeader (trim raw) = false)
    (h : r.Coherent valid before) (hmark : ¬ includes nameMark (trim raw) = true)
    (hposition : r.position = .inPartition) :
    Tracks valid (before ++ [raw]) (r.applyAttribute (trim raw))
      (r.scan.inner rule (trim raw), none) := by
  obtain ⟨p, hpartition⟩ := Option.ne_none_iff_exists'.1 (h.inPartition_iff.1 hposition)
  obtain ⟨disk, hdisk⟩ : ∃ disk, r.disk = some disk := by
    rw [← Option.ne_none_iff_exists']
    intro hnone
    rw [h.noEntity_iff.2 hnone] at hposition
    simp at hposition
  obtain ⟨-, halike⟩ := readPartitionAttribute_eq (trim raw) p r.session
  rw [applyAttribute, hpartition, scan_of_inPartition hdisk hpartition, PartitionScan.inner]
  simp only [PartitionState.disk?, if_neg hmark]
  refine .of_eq (scan_of_inPartition hdisk rfl) (h.line hraw h.noEntity_iff (by simp [hposition])
    rfl (fun hnone => ?_) halike.sameStore.isValid halike.sameStore.disks)
  simp [hdisk] at hnone

/-- A line that opens no block keeps the registers coherent, and finds none of them empty. -/
theorem inner_tracks {raw : Text} (hraw : isBlockHeader (trim raw) = false)
    (h : r.Coherent valid before) :
    Tracks valid (before ++ [raw]) (r.inner rule (trim raw))
      (r.scan.inner rule (trim raw), none) := by
  cases hdisk : r.disk with
  | none => exact passOver_tracks hraw h hdisk
  | some disk =>
    have hposition : r.position ≠ .noEntity := fun heq => by simp [h.noEntity_iff.1 heq] at hdisk
    rw [inner, if_neg hposition]
    by_cases hmark : includes nameMark (trim raw) = true
    · rw [if_pos hmark]
      exact enterPartition_tracks hraw h hdisk hmark
    · rw [if_neg hmark]
      by_cases hinside : r.position = .inPartition
      · rw [if_pos hinside]
        exact applyAttribute_tracks hraw h hmark hinside
      · -- between the header and the first partition a line says nothing
        have hpartition : r.partition = none := by
          by_contra hsome
          exact hinside (h.inPartition_iff.2 hsome)
        rw [if_neg hinside, scan_of_inDisk hdisk hpartition, PartitionScan.inner]
        simp only [PartitionState.disk?, if_neg hmark]
        exact .of_eq (scan_of_inDisk hdisk hpartition)
          (h.line hraw h.noEntity_iff h.inPartition_iff rfl h.idle rfl rfl)

/-- One line keeps the registers coherent, and does what it does to the scan. -/
theorem step_tracks (rule : NamingRule) (lookup : Option (Text → Answer))
    (h : r.Coherent valid before) (raw : Text) :
    Tracks valid (before ++ [raw]) (r.step rule lookup raw) (r.scan.step rule lookup raw) := by
  -- counting the line touches no register but the session
  have hticked : Coherent valid before
      { r with session := r.session.tick Source.partitionGeometry EventKind.lines } :=
    ⟨h.scope, h.noEntity_iff, h.inPartition_iff, h.idle, h.atHand, h.stored⟩
  rw [step, PartitionScan.step]
  cases hraw : isBlockHeader (trim raw) with
  | true =>
    have htracks := enterDisk_tracks lookup hraw hticked
    rw [← lastToken_trim raw] at htracks
    exact htracks
  | false => exact inner_tracks hraw hticked

/-- Some lines keep the registers coherent, and do what they do to the scan. -/
theorem run_tracks (rule : NamingRule) (lookup : Option (Text → Answer))
    (h : r.Coherent valid before) (lines : List Text) :
    Tracks valid (before ++ lines) (run rule lookup lines r)
      (PartitionScan.run rule lookup lines r.scan) := by
  induction lines generalizing before r with
  | nil =>
    rw [List.append_nil]
    exact .ok h
  | cons raw rest ih =>
    have hstep := step_tracks rule lookup h raw
    rw [run, List.foldlM_cons, PartitionScan.run]
    generalize r.step rule lookup raw = result at hstep ⊢
    generalize r.scan.step rule lookup raw = result' at hstep ⊢
    cases hstep with
    | ok hnext =>
      have hrest := ih hnext
      rw [List.append_assoc, List.singleton_append] at hrest
      exact hrest
    | fault hsession => exact .fault hsession

/-- The registers are coherent at the start. -/
theorem coherent_start (s : Session) : Coherent s.isValid [] { session := s } where
  scope := rfl
  noEntity_iff := by simp
  inPartition_iff := by simp
  idle _ := ⟨rfl, rfl⟩
  atHand := rfl
  stored := by simp

/-- Outside is where no block was opened, or the last one is out of scope. -/
theorem Coherent.noEntity_iff_outside {lines : List Text} (h : r.Coherent valid lines) :
    r.position = .noEntity ↔ ∀ device, openDevice lines = some device → valid device = false := by
  rw [h.noEntity_iff, ← deviceInScope_eq_none_iff, ← h.atHand, Option.map_eq_none_iff]

/-- What a listing comes to, if no register was found empty. -/
def outcome : Except Halt PartitionRegisters → Option (Session × Option Fault)
  | .ok r => some (r.session, none)
  | .error (.fault s fault) => some (s, some fault)
  | .error .missing => none

/-- A whole listing does what the scan does, and leaves nothing at hand. -/
theorem parse_eq (rule : NamingRule) (lookup : Option (Text → Answer)) (lines : List Text)
    (s : Session) :
    outcome (parse rule lookup lines { session := s }) =
        some (readPartitionGeometry rule lookup lines s) ∧
      ∀ r, parse rule lookup lines { session := s } = .ok r → r.AtRest := by
  have hrun := run_tracks rule lookup (coherent_start s) lines
  have hstart : ({ session := s } : PartitionRegisters).scan = { session := s } := rfl
  rw [hstart] at hrun
  rw [parse, readPartitionGeometry]
  generalize run rule lookup lines { session := s } = result at hrun ⊢
  generalize PartitionScan.run rule lookup lines { session := s } = result' at hrun ⊢
  cases hrun with
  | fault hsession => simp [outcome, Except.bind, hsession]
  | @ok r hcoherent =>
    rcases finish_tracks lookup hcoherent with
      ⟨t, fault, scan, hfinish, hclose, hsession⟩ | ⟨r', hfinish, hclose, hrest, -⟩
    · simp [outcome, Except.bind, hfinish, hclose, hsession]
    · refine ⟨?_, fun other hother => ?_⟩
      · simp only [Except.bind, hfinish, hclose]
        rfl
      · rw [Except.bind, hfinish, Except.ok.injEq] at hother
        exact hother ▸ hrest

end PartitionRegisters

end StorageInventory.Pass
