import Mathlib.Tactic
import StorageInventory.Proofs.Pass.DiskEdits
import StorageInventory.Proofs.Pass.PartitionGeometry

/-!
# What disk geometry does to the disks

The blocks of the devices in scope are kept.  Afterwards every device of a kept block is known, and
its size, model and serial number are those of the last lines that tell them, in whichever of its
blocks these stand.  What no line tells is as it was before, and so is everything else.

* `portray` — what lines tell of a disk,
* `editsOf_geometryEdits` — the edits of the pass amount to it, device by device,
* `keys_applyEdits` — edits make their devices known in order,
* `readDiskGeometry_disks` — the disks that the pass leaves.

A size that is no number counts as zero, and as the last one; a line with the label alone tells no
size at all.
-/

namespace StorageInventory

open Table Pass

/-- Edits make their devices known, in order. -/
theorem keys_applyEdits (edits : List DiskEdit) (disks : Table Disk) :
    (applyEdits edits disks).keys = knownAfter disks.keys (edits.map DiskEdit.device) := by
  induction edits generalizing disks with
  | nil => rfl
  | cons e edits ih =>
    rw [applyEdits_cons, ih, DiskEdit.apply, keys_put, List.map_cons]
    rfl

namespace Pass

open Text

/-! ## What lines tell of a disk -/

/-- What stands behind a label. -/
def behindLabel (label line : Text) : Option Text :=
  if label.isPrefixOf line then some (line.drop label.length) else none

/-- What stands behind the label in the last of the lines that have it. -/
def lastBehind (label : Text) (lines : List Text) : Option Text :=
  (lines.filterMap (behindLabel label)).getLast?

/-- The size that lines tell: the last one, zero if it is no number. -/
def toldSize (lines : List Text) : Option Int :=
  (lastValue sizeLabel lines).map fun size => (readSize size).getD 0

/-- The model that lines tell. -/
def toldModel (lines : List Text) : Option Text := (lastBehind modelLabel lines).map trim

/-- The serial number that lines tell, without what stands for none. -/
def toldSerial (lines : List Text) : Option Text :=
  (lastBehind serialLabel lines).map fun serial => trim (replaceAll noSerial [] serial)

/-- The disk with what lines tell of it; what they do not tell stays as it is. -/
def portray (lines : List Text) (d : Disk) : Disk :=
  { d with
    sizeBytes := (toldSize lines).getD d.sizeBytes
    model := (toldModel lines).getD d.model
    serial := (toldSerial lines).getD d.serial }

/-- The bodies of a device's blocks, one after the other. -/
def bodiesOf (device : Text) (blocks : List Block) : List Text :=
  (blocks.filter (·.device = device)).flatMap Block.body

/-- The later lines are looked at first. -/
theorem lastBehind_append (label : Text) (a b : List Text) :
    lastBehind label (a ++ b) = (lastBehind label b).or (lastBehind label a) := by
  rw [lastBehind, List.filterMap_append, List.getLast?_append, lastBehind, lastBehind]

/-- Lines can be told one part after the other. -/
theorem portray_append (a b : List Text) (d : Disk) :
    portray (a ++ b) d = portray b (portray a d) := by
  simp only [portray, toldSize, toldModel, toldSerial, lastValue_append, lastBehind_append,
    Option.map_or, Option.getD_or]

/-- To be told the same again changes nothing. -/
theorem portray_portray (lines : List Text) (d : Disk) :
    portray lines (portray lines d) = portray lines d := by
  rw [← portray_append]
  simp only [portray, toldSize, toldModel, toldSerial, lastValue_append, lastBehind_append,
    Option.or_self]

/-- Of a single line, what stands behind its label is the last. -/
theorem lastBehind_singleton (label line : Text) :
    lastBehind label [line] = behindLabel label line := by
  rw [lastBehind, List.filterMap_cons]
  cases behindLabel label line <;> rfl

/-- The edit of a line is what the line tells. -/
theorem editsOf_attributeEdit (device line : Text) (d : Disk) :
    editsOf (attributeEdit device line).toList device d = portray [line] d := by
  rw [portray, toldSize, toldModel, toldSerial, lastValue_singleton, lastBehind_singleton,
    lastBehind_singleton, behindLabel, behindLabel, attributeEdit]
  by_cases hsize : sizeLabel.isPrefixOf line = true
  · -- no two labels begin alike, so the first that fits is the only one
    have hmodel : modelLabel.isPrefixOf line = false := isPrefixOf_of_startApart rfl hsize
    have hserial : serialLabel.isPrefixOf line = false := isPrefixOf_of_startApart rfl hsize
    rw [if_pos hsize, labelled_eq_getElem hsize, hmodel, hserial]
    cases (tokens line)[1]? <;> simp [editsOf]
  rw [if_neg hsize, labelled_of_not_prefix hsize]
  by_cases hmodel : modelLabel.isPrefixOf line = true
  · have hserial : serialLabel.isPrefixOf line = false := isPrefixOf_of_startApart rfl hmodel
    rw [if_pos hmodel, if_pos hmodel, hserial]
    simp [editsOf]
  rw [if_neg hmodel, if_neg hmodel]
  by_cases hserial : serialLabel.isPrefixOf line = true
  · rw [if_pos hserial, if_pos hserial]
    simp [editsOf]
  · rw [if_neg hserial, if_neg hserial]
    rfl

/-- The edits of a block are what its body tells of its device. -/
theorem editsOf_edits (b : Block) (d : Disk) :
    editsOf b.edits b.device d = portray b.body d := by
  have hbody : ∀ (lines : List Text) (d : Disk),
      editsOf (lines.filterMap (attributeEdit b.device)) b.device d = portray lines d := by
    intro lines
    induction lines with
    | nil => exact fun d => rfl
    | cons line lines ih =>
      intro d
      have hcons : (line :: lines).filterMap (attributeEdit b.device) =
          (attributeEdit b.device line).toList ++ lines.filterMap (attributeEdit b.device) := by
        rw [List.filterMap_cons]
        cases attributeEdit b.device line <;> rfl
      rw [hcons, editsOf_append, editsOf_attributeEdit, ih, ← portray_append,
        List.singleton_append]
  exact (editsOf_cons_self (registration b.device) _ d).trans (hbody b.body d)

/-- The edits of a listing are what the bodies of a device's blocks tell of it. -/
theorem editsOf_geometryEdits (valid : Text → Bool) (lines : List Text) (device : Text)
    (d : Disk) :
    editsOf (geometryEdits valid lines) device d =
      portray (bodiesOf device (kept valid (blocksOf lines))) d := by
  rw [geometryEdits]
  induction kept valid (blocksOf lines) generalizing d with
  | nil => rfl
  | cons b blocks ih =>
    rw [List.flatMap_cons, editsOf_append, ih, bodiesOf, bodiesOf, List.filter_cons]
    by_cases hd : b.device = device
    · subst hd
      rw [editsOf_edits, if_pos (by simp), List.flatMap_cons, portray_append]
    · have hnone : device ∉ b.edits.map DiskEdit.device := by
        intro hmem
        obtain ⟨e, he, rfl⟩ := List.mem_map.1 hmem
        exact hd (device_of_mem_edits he).1.symm
      rw [editsOf_of_not_mem hnone, if_neg (by simpa using hd)]

/-- The devices of the edits become known as the blocks stand. -/
theorem knownAfter_geometryEdits (known : List Text) (valid : Text → Bool) (lines : List Text) :
    knownAfter known ((geometryEdits valid lines).map DiskEdit.device) =
      knownAfter known ((kept valid (blocksOf lines)).map Block.device) := by
  rw [geometryEdits]
  induction kept valid (blocksOf lines) generalizing known with
  | nil => rfl
  | cons b blocks ih =>
    have hbody : ∀ d ∈ (b.body.filterMap (attributeEdit b.device)).map DiskEdit.device,
        d = b.device := by
      intro d hd
      obtain ⟨e, he, rfl⟩ := List.mem_map.1 hd
      exact (device_of_mem_edits (List.mem_cons_of_mem _ he)).1
    have hblock : knownAfter known (b.edits.map DiskEdit.device) = knownAfter known [b.device] :=
      knownAfter_cons_repeated hbody known
    rw [List.flatMap_cons, List.map_append, knownAfter_append, hblock, ih, ← knownAfter_append,
      List.singleton_append, List.map_cons]

/-- The devices whose disks are edited are those of the kept blocks. -/
theorem mem_map_device_geometryEdits {valid : Text → Bool} {lines : List Text} {device : Text} :
    device ∈ (geometryEdits valid lines).map DiskEdit.device ↔
      device ∈ (kept valid (blocksOf lines)).map Block.device := by
  rw [mem_geometryEdits_iff, mem_map_device_kept]

/-- The pass over disk geometry, which cannot fail, makes the devices of the kept blocks known, and
of each of them that its disk is what all its blocks tell; nothing else that is known changes.  At
the end no block is open. -/
theorem readDiskGeometry_disks (lines : List Text) (s : Session) :
    let blocks := kept s.isValid (blocksOf lines)
    let after := readDiskGeometry lines s
    after.disks.keys = knownAfter s.disks.keys (blocks.map Block.device) ∧
      (∀ device, after.disks.get? device =
        if device ∈ blocks.map Block.device then
          some (portray (bodiesOf device blocks) (diskOf s.disks device))
        else s.disks.get? device) ∧
      after.valid = s.valid ∧ after.mounts = s.mounts ∧ after.timestamp = s.timestamp ∧
      (DiskScan.run { session := s } lines).finish = { current := none, session := after } := by
  intro blocks after
  have hstore : after.SameStore
      { s with disks := applyEdits (geometryEdits s.isValid lines) s.disks } :=
    readDiskGeometry_sameStore lines s
  refine ⟨?_, fun device => ?_, hstore.valid, hstore.mounts, hstore.timestamp, rfl⟩
  · rw [hstore.disks, keys_applyEdits, knownAfter_geometryEdits]
  · rw [hstore.disks, get?_applyEdits, editsOf_geometryEdits]
    simp only [mem_map_device_geometryEdits]
    rfl

-- the last size that is told counts, although it is no number; the bare label tells none
example :
    toldSize ["Mediasize: 512 (0.5K)".toList, "Mediasize: big".toList, "Mediasize:".toList] =
      some 0 := by decide

end Pass

end StorageInventory
