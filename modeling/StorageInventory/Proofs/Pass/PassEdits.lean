import Mathlib.Tactic
import StorageInventory.Proofs.Pass.DiskEdits
import StorageInventory.Proofs.Pass.PartitionFaults
import StorageInventory.Proofs.Store.Facets

/-!
# Every pass edits one facet

The edits of the counter listing stay within the throughput of the disks, those of the disk geometry
within their geometry.  The pass over partition geometry, where it does not fail, is read into edits
as well: every kept block attaches its batch, which is an edit within the partitions.

* `within_counterEdits`, `within_geometryEdits`, `within_attachments` — each pass has its facet,
* `readPartitionGeometry_sameStore` — what the pass over partition geometry leaves, as edits.
-/

namespace StorageInventory.Pass

open Table Name Text

/-! ## Counters and disk geometry -/

/-- A row says the whole throughput, whatever it was before. -/
theorem overwrites_counterEdits {timestamp : Int} {valid : Text → Bool} {lines : List Text} :
    ∀ e ∈ counterEdits timestamp valid lines, e.Overwrites Facet.throughput := by
  intro e he
  obtain ⟨line, -, h⟩ := List.mem_filterMap.1 he
  obtain ⟨⟨device, rest⟩, -, rfl⟩ := Option.map_eq_some_iff.1 h
  refine ⟨Facet.throughput.read (setCounters timestamp device (device :: rest)
    { name := device }), fun d hd => ?_⟩
  obtain rfl : d.name = device := hd
  rfl

/-- Counter rows write throughput only. -/
theorem within_counterEdits {timestamp : Int} {valid : Text → Bool} {lines : List Text} :
    ∀ e ∈ counterEdits timestamp valid lines, e.Within Facet.throughput :=
  fun e he => (overwrites_counterEdits e he).within

/-- An attribute writes geometry only. -/
theorem within_attributeEdit {disk line : Text} {e : DiskEdit}
    (h : attributeEdit disk line = some e) : e.Within Facet.geometry := by
  rw [attributeEdit] at h
  split_ifs at h
  · obtain ⟨size, -, rfl⟩ := Option.map_eq_some_iff.1 h
    exact ⟨fun g => { g with sizeBytes := (readSize size).getD 0 }, fun _ _ => rfl⟩
  · obtain rfl := Option.some.inj h
    exact ⟨fun g => { g with model := trim (line.drop modelLabel.length) }, fun _ _ => rfl⟩
  · obtain rfl := Option.some.inj h
    exact ⟨fun g =>
      { g with serial := trim (replaceAll noSerial [] (line.drop serialLabel.length)) },
      fun _ _ => rfl⟩

/-- A disk geometry writes geometry only. -/
theorem within_geometryEdits {valid : Text → Bool} {lines : List Text} :
    ∀ e ∈ geometryEdits valid lines, e.Within Facet.geometry := by
  intro e he
  obtain ⟨b, -, he⟩ := List.mem_flatMap.1 he
  rcases List.mem_cons.1 he with rfl | he
  · exact within_registration _ _
  · obtain ⟨line, -, h⟩ := List.mem_filterMap.1 he
    exact within_attributeEdit h

/-! ## Partition geometry -/

/-- What partitions and a batch settle to; the partitions as they are, if they cannot settle. -/
def settledWith (old batch : List Partition) : List Partition :=
  (settle (old ++ batch)).toOption.getD old

/-- What partitions settle to with a batch is the list they settle to. -/
theorem settledWith_eq {old batch result : List Partition} (h : Settles (old ++ batch) result) :
    settledWith old batch = result := by
  rw [settledWith, settle_eq_ok_iff.2 h]
  rfl

/-- To attach a batch, as an edit of its disk. -/
def attachment (batch : Batch) : DiskEdit where
  device := batch.1
  change d := { d with partitions := settledWith d.partitions batch.2 }

/-- The edits that a listing of partition geometry makes, if it can be read. -/
def attachments (rule : NamingRule) (mounts : Table Text) (minor : Text → Int)
    (valid : Text → Bool) (blocks : List Block) : List DiskEdit :=
  (kept valid blocks).map fun b => attachment (b.batch rule mounts minor)

/-- Attaching batches writes partitions only. -/
theorem within_attachments {rule : NamingRule} {mounts : Table Text} {minor : Text → Int}
    {valid : Text → Bool} {blocks : List Block} :
    ∀ e ∈ attachments rule mounts minor valid blocks, e.Within Facet.partitions := by
  intro e he
  obtain ⟨b, -, rfl⟩ := List.mem_map.1 he
  exact ⟨fun old => settledWith old (b.batch rule mounts minor).2, fun _ _ => rfl⟩

variable {rule : NamingRule} {lookup : Option (Text → Answer)} {minor : Text → Int}

/-- Reading a block makes the edit that attaches its batch. -/
theorem readBlock_sameStore (hminor : Session.NumbersBy lookup minor) {b : Block} {s : Session}
    (hok : (readBlock rule lookup b s).2 = none) :
    (readBlock rule lookup b s).1.SameStore
      { s with disks := applyEdits (attachments rule s.mounts minor s.isValid [b]) s.disks } := by
  by_cases h : s.isValid b.device = true
  · obtain ⟨batch, result, hbatch, hsettles, hstore⟩ := readBlock_ok h hok
    have hedit : attachments rule s.mounts minor s.isValid [b] =
        [attachment (b.device, batch)] := by
      rw [attachments, kept_cons_of_valid h, hbatch.eq minor hminor]
      rfl
    have hput : applyEdits [attachment (b.device, batch)] s.disks =
        s.disks.put b.device { diskOf s.disks b.device with partitions := result } := by
      rw [← settledWith_eq hsettles]
      rfl
    refine hstore.trans ⟨rfl, ?_, rfl, rfl⟩
    rw [hedit]
    exact hput.symm
  · have h : s.isValid b.device = false := by simpa using h
    have hedit : attachments rule s.mounts minor s.isValid [b] = [] := by
      rw [attachments, kept_cons_of_not_valid h]
      rfl
    rw [hedit]
    exact (readBlock_of_not_valid rule lookup h).1

/-- Reading blocks makes the edits that attach their batches. -/
theorem readBlocks_sameStore (hminor : Session.NumbersBy lookup minor) {blocks : List Block}
    {s : Session} (hok : (readBlocks rule lookup blocks s).2 = none) :
    (readBlocks rule lookup blocks s).1.SameStore
      { s with disks := applyEdits (attachments rule s.mounts minor
          s.isValid blocks) s.disks } := by
  induction blocks generalizing s with
  | nil => exact .refl s
  | cons b blocks ih =>
    obtain ⟨hb, hrest⟩ := readBlocks_cons_isOk_iff.1 hok
    have hfirst := readBlock_sameStore hminor hb
    have happend : attachments rule s.mounts minor s.isValid (b :: blocks) =
        attachments rule s.mounts minor s.isValid [b] ++
          attachments rule s.mounts minor s.isValid blocks := by
      rw [attachments, attachments, attachments, ← List.map_append, kept, kept, kept,
        ← List.filter_append, List.singleton_append]
    have hframe : attachments rule (readBlock rule lookup b s).1.mounts minor
        (readBlock rule lookup b s).1.isValid blocks =
        attachments rule s.mounts minor s.isValid blocks := by
      rw [hfirst.mounts, hfirst.isValid]
      rfl
    have hrest := ih hrest
    rw [hframe] at hrest
    rw [readBlocks, goOn_of_isOk hb, happend, applyEdits_append]
    exact hrest.trans (sameStore_edits hfirst _)

/-- The pass over partition geometry, if it does not fail, attaches the batches of the blocks. -/
theorem readPartitionGeometry_sameStore (hminor : Session.NumbersBy lookup minor)
    {lines : List Text} {s : Session} (hok : (readPartitionGeometry rule lookup lines s).2 = none) :
    (readPartitionGeometry rule lookup lines s).1.SameStore
      { s with
        disks := applyEdits (attachments rule s.mounts minor s.isValid (blocksOf lines))
          s.disks } := by
  obtain ⟨halike, hfault⟩ := readPartitionGeometry_agrees rule lookup lines s
  exact halike.sameStore.trans (readBlocks_sameStore hminor (hfault ▸ hok))

end StorageInventory.Pass
