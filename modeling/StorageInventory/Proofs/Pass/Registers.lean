import Mathlib.Tactic
import StorageInventory.Proofs.Pass.PartitionRegisters

/-!
# The geometry scans with registers

The scan over disk geometry has two registers besides the session, where it stands and the disk at
hand.  They agree with each other as those of the partition scan do.

* `DiskRegisters.step_tracks` — one line keeps the registers coherent, and does what it does to the
  scan,
* `registers_coherent` — the registers of both scans are coherent after every line, no line finds
  one empty that it needs, and at the end of a listing nothing is at hand.
-/

namespace StorageInventory.Pass

open Table Text

/-! ## Disk geometry -/

/-- The registers of a scan over disk geometry.  The disk at hand is known by its name, since its
record changes. -/
structure DiskRegisters where
  position : Position := .noEntity
  current : Option Text := none
  session : Session

namespace DiskRegisters

/-- The end of a block. -/
def finish (r : DiskRegisters) : DiskRegisters := { r with current := none, position := .noEntity }

/-- A header ends the block before it and opens its own, if its device is in scope. -/
def enterDisk (device : Text) (r : DiskRegisters) : DiskRegisters :=
  let s := openBlock Source.diskGeometry device r.finish.session
  if r.finish.session.isValid device then
    { r.finish with current := some device, position := .inDisk, session := s }
  else { r.finish with session := s }

/-- Any other line says something of the disk at hand. -/
def applyAttribute (line : Text) (r : DiskRegisters) : Option DiskRegisters :=
  r.current.map fun disk => { r with session := readDiskAttribute disk line r.session }

/-- Read one line, unless a register is found empty. -/
def step (r : DiskRegisters) (raw : Text) : Option DiskRegisters :=
  let line := trim raw
  let r := { r with session := r.session.tick Source.diskGeometry EventKind.lines }
  if isBlockHeader line then some (r.enterDisk (lastToken line))
  else if r.position = .noEntity then
    some { r with session := passOver Source.diskGeometry line r.session }
  else r.applyAttribute line

/-- Read some lines. -/
def run (lines : List Text) (r : DiskRegisters) : Option DiskRegisters := lines.foldlM step r

/-- Read a listing to its end. -/
def parse (lines : List Text) (r : DiskRegisters) : Option DiskRegisters :=
  (run lines r).map finish

/-- The scan that the registers stand for. -/
def scan (r : DiskRegisters) : DiskScan := { current := r.current, session := r.session }

/-- The registers agree with each other and with the lines that were read. -/
structure Coherent (valid : Text → Bool) (lines : List Text) (r : DiskRegisters) : Prop where
  scope : r.session.isValid = valid
  noEntity_iff : r.position = .noEntity ↔ r.current = none
  atHand : r.current = deviceInScope valid lines
  stored : ∀ disk, r.current = some disk → disk ∈ r.session.disks.keys

/-- Nothing is at hand. -/
structure AtRest (r : DiskRegisters) : Prop where
  position : r.position = .noEntity
  current : r.current = none

variable {valid : Text → Bool} {before : List Text} {r : DiskRegisters}

/-- The register of the pass over disks is coherent at the start. -/
theorem coherent_start (s : Session) : Coherent s.isValid [] { session := s } where
  scope := rfl
  noEntity_iff := by simp
  atHand := rfl
  stored := by simp

/-- Outside is where no block was opened, or the last one is out of scope. -/
theorem Coherent.noEntity_iff_outside {lines : List Text} (h : r.Coherent valid lines) :
    r.position = .noEntity ↔ ∀ device, openDevice lines = some device → valid device = false := by
  rw [h.noEntity_iff, h.atHand, deviceInScope_eq_none_iff]

/-- A header takes the disk of its device to hand, if it is in scope. -/
theorem header_tracks {raw : Text} (hraw : isBlockHeader (trim raw) = true)
    (h : r.Coherent valid before) :
    ∃ r', r.step raw = some r' ∧ r'.Coherent valid (before ++ [raw]) ∧
      r'.scan = r.scan.step raw := by
  obtain ⟨hcurrent, hstore⟩ := step_header hraw r.scan
  have hscope : r.scan.session.isValid = valid := h.scope
  rw [hscope] at hcurrent hstore
  have hstep : r.step raw = some { position := if valid (lastToken raw) then .inDisk else .noEntity
                                   current := (r.scan.step raw).current
                                   session := (r.scan.step raw).session } := by
    have hticked : (r.session.tick Source.diskGeometry EventKind.lines).isValid = valid := h.scope
    rw [hcurrent, step, DiskScan.step, lastToken_trim]
    simp only [hraw, if_true, enterDisk, finish, hticked]
    split <;> rfl
  refine ⟨_, hstep, ⟨hstore.isValid.trans hscope, ?_, ?_, fun disk hdisk => ?_⟩, rfl⟩
  · rw [hcurrent]
    split <;> simp
  · exact hcurrent.trans (deviceInScope_header hraw valid before).symm
  · dsimp only at hdisk ⊢
    rw [hcurrent] at hdisk
    split_ifs at hdisk with hvalid
    obtain rfl := Option.some.inj hdisk
    rw [hstore.disks, if_pos hvalid]
    exact mem_keys_applyEdits.2 (.inl (List.mem_singleton_self _))

/-- Any other line keeps the disk at hand. -/
theorem line_tracks {raw : Text} (hraw : isBlockHeader (trim raw) = false)
    (h : r.Coherent valid before) :
    ∃ r', r.step raw = some r' ∧ r'.Coherent valid (before ++ [raw]) ∧
      r'.scan = r.scan.step raw := by
  obtain ⟨hcurrent, hstore⟩ := step_line hraw r.scan
  -- an attribute is applied to the disk at hand, and there is one exactly inside of a block
  have hstep : r.step raw = some { r with session := (r.scan.step raw).session } := by
    rw [step, DiskScan.step]
    simp only [hraw, Bool.false_eq_true, if_false]
    cases hdisk : r.current with
    | none =>
      rw [if_pos (h.noEntity_iff.2 hdisk)]
      simp [scan, hdisk]
    | some disk =>
      have hposition : r.position ≠ .noEntity := fun heq => by
        simp [h.noEntity_iff.1 heq] at hdisk
      rw [if_neg hposition, applyAttribute]
      simp [scan, hdisk]
  refine ⟨_, hstep, ⟨hstore.isValid.trans h.scope, h.noEntity_iff,
    h.atHand.trans (deviceInScope_line hraw valid before).symm, fun disk hdisk => ?_⟩, ?_⟩
  · dsimp only
    rw [hstore.disks]
    exact mem_keys_applyEdits.2 (.inr (h.stored disk hdisk))
  · rw [scan]
    exact congrArg (DiskScan.mk · _) hcurrent.symm

/-- One line keeps the registers coherent, finds none of them empty, and does what it does to the
scan. -/
theorem step_tracks (h : r.Coherent valid before) (raw : Text) :
    ∃ r', r.step raw = some r' ∧ r'.Coherent valid (before ++ [raw]) ∧
      r'.scan = r.scan.step raw := by
  cases hraw : isBlockHeader (trim raw) with
  | true => exact header_tracks hraw h
  | false => exact line_tracks hraw h

/-- Some lines keep the registers coherent, and do what they do to the scan. -/
theorem run_tracks (h : r.Coherent valid before) (lines : List Text) :
    ∃ r', run lines r = some r' ∧ r'.Coherent valid (before ++ lines) ∧
      r'.scan = r.scan.run lines := by
  induction lines generalizing before r with
  | nil =>
    rw [List.append_nil]
    exact ⟨r, rfl, h, rfl⟩
  | cons raw rest ih =>
    obtain ⟨next, hstep, hnext, hscan⟩ := step_tracks h raw
    obtain ⟨r', hrun, hcoherent, hscan'⟩ := ih hnext
    rw [List.append_assoc, List.singleton_append] at hcoherent
    refine ⟨r', ?_, hcoherent, ?_⟩
    · rw [run, List.foldlM_cons, hstep]
      exact hrun
    · rw [hscan', hscan]
      rfl

end DiskRegisters

/-! ## Both scans -/

/-- The registers of both scans are coherent after every line of every listing, and no line finds a
register empty that it needs.  They stand outside exactly if no block was opened or the last one is
out of scope.  What a whole listing comes to is what the scan comes to, and unless there is a fault
nothing is left at hand. -/
theorem registers_coherent (rule : NamingRule) (lookup : Option (Text → Answer))
    (lines : List Text) (s : Session) :
    (PartitionRegisters.run rule lookup lines { session := s } ≠ .error .missing ∧
      (∀ r, PartitionRegisters.run rule lookup lines { session := s } = .ok r →
        r.Coherent s.isValid lines ∧
          (r.position = .noEntity ↔
            ∀ device, openDevice lines = some device → s.isValid device = false)) ∧
      PartitionRegisters.outcome (PartitionRegisters.parse rule lookup lines { session := s }) =
        some (readPartitionGeometry rule lookup lines s) ∧
      ∀ r, PartitionRegisters.parse rule lookup lines { session := s } = .ok r → r.AtRest) ∧
    (∃ r, DiskRegisters.run lines { session := s } = some r ∧ r.Coherent s.isValid lines ∧
      (r.position = .noEntity ↔
        ∀ device, openDevice lines = some device → s.isValid device = false)) ∧
    ∃ r, DiskRegisters.parse lines { session := s } = some r ∧ r.AtRest ∧
      r.session = readDiskGeometry lines s := by
  have htracks := PartitionRegisters.run_tracks rule lookup (PartitionRegisters.coherent_start s)
    lines
  obtain ⟨r, hrun, hcoherent, hscan⟩ :=
    DiskRegisters.run_tracks (DiskRegisters.coherent_start s) lines
  rw [List.nil_append] at htracks hcoherent
  -- the end of the scan does not matter, only that the registers track it
  generalize PartitionScan.run rule lookup lines _ = result at htracks
  refine ⟨⟨fun hmissing => ?_, fun r hok => ?_, PartitionRegisters.parse_eq rule lookup lines s⟩,
    ⟨r, hrun, hcoherent, hcoherent.noEntity_iff_outside⟩, r.finish, ?_, ⟨rfl, rfl⟩, ?_⟩
  · rw [hmissing] at htracks
    cases htracks
  · rw [hok] at htracks
    cases htracks with
    | ok hcoherent => exact ⟨hcoherent, hcoherent.noEntity_iff_outside⟩
  · rw [DiskRegisters.parse, hrun, Option.map_some]
  · exact congrArg DiskScan.session hscan

/-- In a partition, the disk at hand is the one that is stored. -/
theorem registers_coherent_ada0 :
    let s : Session := { valid := ["ada0".toList] }
    let lines := ["Geom name: ada9".toList, "Geom name: ada0".toList, "1. Name: ada0p1".toList]
    ∃ r disk, PartitionRegisters.run geometryRule none lines { session := s } = .ok r ∧
      r.position = .inPartition ∧ r.disk = some disk ∧ disk.device = "ada0".toList ∧
      r.session.disks.get? "ada0".toList = some disk.record := by
  intro s lines
  obtain ⟨r, disk, hrun, hposition, hdisk⟩ : ∃ r disk,
      PartitionRegisters.run geometryRule none lines { session := s } = .ok r ∧
        r.position = .inPartition ∧ r.disk = some disk := ⟨_, _, rfl, rfl, rfl⟩
  have hcoherent := ((registers_coherent geometryRule none lines s).1.2.1 r hrun).1
  have hdevice : disk.device = "ada0".toList := by
    have hlast : deviceInScope s.isValid lines = some "ada0".toList := by decide
    have hatHand := hcoherent.atHand
    rw [hdisk, hlast] at hatHand
    exact Option.some.inj hatHand
  exact ⟨r, disk, hrun, hposition, hdisk, hdevice, hdevice ▸ hcoherent.stored disk hdisk⟩

end StorageInventory.Pass
