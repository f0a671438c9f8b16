import Mathlib.Tactic
import StorageInventory.Proofs.Diagnostics.Amounts
import StorageInventory.Proofs.Pass.DiskGeometry
import StorageInventory.Proofs.Session.PassOrder

/-!
# Reading a source again

A source that is read a second time says what it has said before.  Within one listing a device, an
attribute or a partition may come up many times with different values, so in between the second
reading puts back what later lines had replaced; but each pass ends with the last values, and these
are the ones that it found.

* `applyEdits_again` — edits that change no record a second time leave the disks as they are,
* `Reads.again` — the batches of a listing settle with what they left,
* `perform_again` — a second reading changes nothing but the counts, by as much as the first.
-/

namespace StorageInventory

open Name Pass Table

/-! ## Disks -/

/-- Tables of disks with the same keys in order and the same answers are the same. -/
theorem eq_of_keys_of_get? {a b : Table Disk} (hnd : a.keys.Nodup) (hkeys : b.keys = a.keys)
    (hget : ∀ device, get? b device = get? a device) : b = a := by
  have hnd' : b.keys.Nodup := hkeys ▸ hnd
  have hdisk : diskOf b = diskOf a := by
    funext device
    rw [diskOf, hget, diskOf]
  calc
    b = b.keys.map fun device => (device, diskOf b device) :=
      (map_get?_keys hnd' fun _ => get?_of_mem_keys).symm
    _ = a.keys.map fun device => (device, diskOf a device) := by rw [hkeys, hdisk]
    _ = a := map_get?_keys hnd fun _ => get?_of_mem_keys

/-- Edits that change no record a second time leave the disks as they are the second time. -/
theorem applyEdits_again {edits : List DiskEdit} {disks : Table Disk} (hnd : disks.keys.Nodup)
    (h : ∀ device, editsOf edits device (editsOf edits device (diskOf disks device)) =
      editsOf edits device (diskOf disks device)) :
    applyEdits edits (applyEdits edits disks) = applyEdits edits disks := by
  have hkeys : (applyEdits edits disks).keys.Nodup := by
    rw [keys_applyEdits]
    exact nodup_knownAfter hnd _
  have hknown : ∀ device ∈ edits.map DiskEdit.device, device ∈ (applyEdits edits disks).keys :=
    fun device hdevice => mem_keys_applyEdits.2 (.inl hdevice)
  refine eq_of_keys_of_get? hkeys ?_ fun device => ?_
  · rw [keys_applyEdits edits (applyEdits edits disks), knownAfter_of_forall_mem hknown]
  · rw [get?_applyEdits, diskOf_applyEdits, h, get?_applyEdits]
    split <;> rfl

namespace Pass

/-- Batches that turn some disks into others leave these as they are. -/
theorem Reads.again {batches : List Batch} {before once twice : Table Disk}
    (hnd : before.keys.Nodup) (hfirst : Reads batches before once)
    (hsecond : Reads batches once twice) : twice = once := by
  have hkeys : once.keys.Nodup := hfirst.keys ▸ nodup_knownAfter hnd _
  have hknown : ∀ device ∈ batches.map Prod.fst, device ∈ once.keys := by
    intro device hdevice
    rw [hfirst.keys]
    exact mem_knownAfter.2 (.inr hdevice)
  refine eq_of_keys_of_get? hkeys ?_ fun device => ?_
  · rw [hsecond.keys, knownAfter_of_forall_mem hknown]
  · by_cases hmem : device ∈ batches.map Prod.fst
    · obtain ⟨result, hsettles, hget⟩ := hfirst.record device hmem
      obtain ⟨final, hfinal, hget'⟩ := hsecond.record device hmem
      -- what the device gained settles with what it left
      rw [diskOf_of_get? hget] at hfinal hget'
      rw [hget, hget', hfinal.unique hsettles.append_again]
    · exact hsecond.other device hmem

end Pass

/-! ## Passes -/

/-- A pass over one of the four sources, with lookups that answer by the name. -/
inductive Operation.IsPass (answer : Text → Finding) : Operation → Prop
  | mounts (lines : List Text) : IsPass answer (.readMounts lines)
  | describes {op : Operation} (h : op.Describes answer) : IsPass answer op

variable {answer : Text → Finding} {op : Operation} {s : Session}

/-- A pass over a source that describes disks leaves the disks as they are the second time. -/
theorem disks_again (h : op.Describes answer) (hs : Stored s.disks)
    (hok : (perform op s).2 = .ok none) (hok' : (perform op (perform op s).1).2 = .ok none) :
    (perform op (perform op s).1).1.disks = (perform op s).1.disks := by
  obtain ⟨hstore, -⟩ := perform_describes h hok
  obtain ⟨hstore', -⟩ := perform_describes h hok'
  have honce : (perform op s).1.disks = applyEdits (op.edits answer s) s.disks := hstore.disks
  have htwice : (perform op (perform op s).1).1.disks =
      applyEdits (op.edits answer s) (applyEdits (op.edits answer s) s.disks) := by
    rw [hstore'.disks, (describes_congr hstore op).1, honce]
  cases h with
  | counters lines =>
    rw [htwice, honce]
    refine applyEdits_again hs.nodup fun device => ?_
    exact editsOf_editsOf_of_overwrites overwrites_counterEdits (hs.name_diskOf device)
  | diskGeometry lines =>
    rw [htwice, honce]
    refine applyEdits_again hs.nodup fun device => ?_
    simp only [Operation.edits, editsOf_geometryEdits, portray_portray]
  | partitionGeometry rule lookup lines answers =>
    obtain ⟨batches, hbatches, hfirst⟩ :=
      readPartitionGeometry_reads (Outcome.ofFault_eq_ok_iff.1 hok)
    obtain ⟨batches', hbatches', hsecond⟩ :=
      readPartitionGeometry_reads (Outcome.ofFault_eq_ok_iff.1 hok')
    have hscope : (perform (.readPartitionGeometry rule lookup lines) s).1.isValid = s.isValid :=
      hstore.isValid
    have hmounts : (perform (.readPartitionGeometry rule lookup lines) s).1.mounts = s.mounts :=
      hstore.mounts
    rw [hscope, hmounts] at hbatches'
    -- with lookups that answer by the name, the batches are the same ones
    rw [batches_eq answers.numbersBy hbatches', ← batches_eq answers.numbersBy hbatches] at hsecond
    exact hfirst.again hs.nodup hsecond

/-- A pass that succeeds does so again.  It leaves the store as it is the second time, and records
the same events. -/
theorem pass_again (h : op.IsPass answer) (hs : Stored s.disks)
    (hok : (perform op s).2 = .ok none) :
    (perform op (perform op s).1).2 = .ok none ∧
      (perform op (perform op s).1).1.SameStore (perform op s).1 ∧
      ∃ events, (perform op s).1.diagnostics = s.diagnostics.recordAll events ∧
        (perform op (perform op s).1).1.diagnostics =
          (perform op s).1.diagnostics.recordAll events := by
  cases h with
  | mounts lines =>
    have honce := readMountTable_sameStore lines s
    have htwice := readMountTable_sameStore lines (readMountTable lines s)
    exact ⟨rfl, ⟨htwice.valid, htwice.disks, htwice.mounts.trans honce.mounts.symm,
      htwice.timestamp⟩, lines.flatMap mountLineEvents, readMountTable_diagnostics lines s,
      readMountTable_diagnostics lines (readMountTable lines s)⟩
  | describes h =>
    have hok' := (isOk_after_pass h h hok).2 hok
    obtain ⟨hstore, hcounts⟩ := perform_describes h hok
    obtain ⟨hstore', hcounts'⟩ := perform_describes h hok'
    rw [(describes_congr hstore op).2] at hcounts'
    exact ⟨hok', ⟨hstore'.valid, disks_again h hs hok hok', hstore'.mounts, hstore'.timestamp⟩,
      _, hcounts, hcounts'⟩

/-- A source can be read again if it could be read once.  Then the second reading leaves the disks,
their order included, the scope, the mount points and the moment as they are.  The same pairs have
counts, and each count grows by as much as the first time.

The mount points that a mount table leaves are those of its lines, whatever was there before. -/
theorem perform_again (h : op.IsPass answer) (hs : Stored s.disks)
    (hok : (perform op s).2 = .ok none) :
    let once := (perform op s).1
    let twice := (perform op once).1
    (perform op once).2 = .ok none ∧ twice.SameStore once ∧
      (∀ source kind, (twice.diagnostics.recorded source kind).isSome =
        (once.diagnostics.recorded source kind).isSome) ∧
      (∀ source kind,
        twice.diagnostics.count source kind - once.diagnostics.count source kind =
          once.diagnostics.count source kind - s.diagnostics.count source kind) ∧
      ∀ lines t u, (readMountTable lines t).mounts = (readMountTable lines u).mounts := by
  intro once twice
  obtain ⟨hok', hstore, events, honce, htwice⟩ := pass_again h hs hok
  refine ⟨hok', hstore, fun source kind => ?_, fun source kind => ?_, fun lines t u => ?_⟩
  · rw [htwice, Diagnostics.recorded_recordAll, honce, Diagnostics.recorded_recordAll]
    split <;> rfl
  · rw [htwice, Diagnostics.count_recordAll, honce, Diagnostics.count_recordAll]
    omega
  · rw [(readMountTable_sameStore lines t).mounts, (readMountTable_sameStore lines u).mounts]

/-- A pass over a disk whose partitions stood out of order, performed twice. -/
theorem perform_again_ada0 :
    let lookup : Text → Answer := fun _ => .ofLines ["110".toList]
    let s : Session :=
      { valid := ["ada0".toList]
        disks := [("ada0".toList, { name := "ada0".toList, partitions :=
          ["ada0p2".toList, "ada0p1".toList, "ada0p2".toList].map (blankPartition []) })] }
    let lines := ["Geom name: ada0".toList, "1. Name: ada0p2".toList, "Mediasize: 512 (x)".toList,
      "Geom name: ada0".toList, "1. Name: ada0p2".toList, "Mediasize: big".toList]
    let op := Operation.readPartitionGeometry geometryRule (some lookup) lines
    (perform op (perform op s).1).1.SameStore (perform op s).1 ∧
      (perform op s).1.diagnostics.count Source.partitionGeometry EventKind.defaulted = 1 ∧
      (perform op (perform op s).1).1.diagnostics.count Source.partitionGeometry
        EventKind.defaulted = 2 := by
  intro lookup s lines op
  have hanswers : AnswersBy (some lookup) fun _ => .ok (some ["110".toList]) := by
    intro l hl name before
    obtain rfl := Option.some.inj hl
    rfl
  have hop : op.IsPass fun _ => .ok (some ["110".toList]) :=
    .describes (.partitionGeometry geometryRule (some lookup) lines hanswers)
  have hstored : Stored s.disks := ⟨by decide, by decide⟩
  have hok : (perform op s).2 = .ok none := rfl
  obtain ⟨-, hstore, -, hcounts, -⟩ := perform_again hop hstored hok
  have hnone : s.diagnostics.count Source.partitionGeometry EventKind.defaulted = 0 := rfl
  have hone : (perform op s).1.diagnostics.count Source.partitionGeometry
      EventKind.defaulted = 1 := by decide
  have hcount := hcounts Source.partitionGeometry EventKind.defaulted
  refine ⟨hstore, hone, ?_⟩
  omega

end StorageInventory
