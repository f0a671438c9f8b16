import Mathlib.Tactic
import StorageInventory.Proofs.Pass.PartitionBlocks

/-!
# What partition geometry does to the disks

The blocks of the devices in scope are kept.  Afterwards every device of a kept block is known; its
partitions are what those it had and those of all its blocks settle to, with the minor numbers of
their names, and nothing else about it has changed.  No other device has changed at all.

* `disksAfter` — the disks that this describes,
* `readPartitionGeometry_disks` — the pass, if it does not fail, leaves just these.

Several blocks of one device settle one after the other, which comes to the same as all at once
(`Settles.append_iff`); so the blocks of different devices do not have to be sorted out first.
-/

namespace StorageInventory.Pass

open Table Name

/-! ## The disks described -/

/-- What one block gives: a device, and partitions with their minor numbers. -/
abbrev Batch := Text × List Partition

/-- The batch of a block, the minor numbers depending on the names only. -/
def Block.batch (rule : NamingRule) (mounts : Table Text) (minor : Text → Int) (b : Block) :
    Batch :=
  (b.device, (b.partitions rule mounts).map (Session.numbered minor))

/-- The partitions that batches give to a device. -/
def gained (device : Text) (batches : List Batch) : List Partition :=
  (batches.filter (·.1 = device)).flatMap Prod.snd

/-- The devices known when some are registered in order, each behind those known before. -/
def knownAfter (known devices : List Text) : List Text :=
  devices.foldl (fun known device => if device ∈ known then known else known ++ [device]) known

/-- The record of a device after batches: its partitions settle if any of them is for it. -/
def recordAfter (batches : List Batch) (disks : Table Disk) (device : Text) : Except Fault Disk :=
  if device ∈ batches.map Prod.fst then
    (settle ((diskOf disks device).partitions ++ gained device batches)).map
      fun partitions => { diskOf disks device with partitions }
  else .ok (diskOf disks device)

/-- The disks after batches. -/
def disksAfter (batches : List Batch) (disks : Table Disk) : Except Fault (Table Disk) :=
  (knownAfter disks.keys (batches.map Prod.fst)).mapM fun device =>
    (recordAfter batches disks device).map (device, ·)

/-- A device is known afterwards if it was before or is one of those registered. -/
theorem mem_knownAfter {known devices : List Text} {device : Text} :
    device ∈ knownAfter known devices ↔ device ∈ known ∨ device ∈ devices := by
  induction devices generalizing known with
  | nil => simp [knownAfter]
  | cons d devices ih =>
    have hstep : knownAfter known (d :: devices) =
        knownAfter (if d ∈ known then known else known ++ [d]) devices := rfl
    rw [hstep, ih, List.mem_cons]
    split
    · next hd =>
      have hself : device = d → device ∈ known := fun h => h ▸ hd
      tauto
    · simp [or_assoc]

/-- No device is known twice. -/
theorem nodup_knownAfter {known : List Text} (h : known.Nodup) (devices : List Text) :
    (knownAfter known devices).Nodup := by
  induction devices generalizing known with
  | nil => exact h
  | cons d devices ih =>
    refine ih ?_
    dsimp only
    split
    · exact h
    · next hd =>
      refine List.nodup_append.2 ⟨h, by simp, fun a ha b hb heq => hd ?_⟩
      rwa [← List.mem_singleton.1 hb, ← heq]

/-- Devices are registered one after the other. -/
theorem knownAfter_append (known a b : List Text) :
    knownAfter known (a ++ b) = knownAfter (knownAfter known a) b := by
  simp [knownAfter]

/-- Devices that are known already make no difference. -/
theorem knownAfter_of_forall_mem {known devices : List Text} (h : ∀ d ∈ devices, d ∈ known) :
    knownAfter known devices = known := by
  induction devices with
  | nil => rfl
  | cons d devices ih =>
    have hstep : knownAfter known (d :: devices) =
        knownAfter (if d ∈ known then known else known ++ [d]) devices := rfl
    rw [hstep, if_pos (h d List.mem_cons_self)]
    exact ih fun d' hd' => h d' (List.mem_cons_of_mem d hd')

/-- A device that is named again at once makes no difference. -/
theorem knownAfter_cons_repeated {device : Text} {devices : List Text}
    (h : ∀ d ∈ devices, d = device) (known : List Text) :
    knownAfter known (device :: devices) = knownAfter known [device] := by
  have hsplit : device :: devices = [device] ++ devices := rfl
  rw [hsplit, knownAfter_append]
  refine knownAfter_of_forall_mem fun d hd => ?_
  exact mem_knownAfter.2 (.inr (List.mem_singleton.2 (h d hd)))

/-- The first batch gives its partitions to its own device. -/
theorem gained_cons (device : Text) (batch : Batch) (batches : List Batch) :
    gained device (batch :: batches) =
      (if batch.1 = device then batch.2 else []) ++ gained device batches := by
  by_cases h : batch.1 = device <;> simp [gained, h]

/-- Batches for other devices give nothing. -/
theorem gained_of_not_mem {device : Text} {batches : List Batch}
    (h : device ∉ batches.map Prod.fst) : gained device batches = [] := by
  rw [gained, filter_key_eq_nil h, List.flatMap_nil]

/-- What is done to every partition is done to those that a device gains. -/
theorem gained_map (f : Partition → Partition) (device : Text) (batches : List Batch) :
    gained device (batches.map fun batch => (batch.1, batch.2.map f)) =
      (gained device batches).map f := by
  induction batches with
  | nil => rfl
  | cons batch batches ih =>
    rw [List.map_cons, gained_cons, gained_cons, ih, List.map_append]
    split <;> rfl

/-! ## Settling batch by batch -/

/-- The batches turn some disks into others. -/
structure Reads (batches : List Batch) (before after : Table Disk) : Prop where
  keys : after.keys = knownAfter before.keys (batches.map Prod.fst)
  record : ∀ device ∈ batches.map Prod.fst, ∃ result,
    Settles ((diskOf before device).partitions ++ gained device batches) result ∧
      get? after device = some { diskOf before device with partitions := result }
  other : ∀ device ∉ batches.map Prod.fst, get? after device = get? before device

theorem Reads.nil (disks : Table Disk) : Reads [] disks disks := ⟨rfl, by simp, fun _ _ => rfl⟩

/-- One batch settles first, and then the others with what it left. -/
theorem Reads.cons {device : Text} {batch : List Partition} {batches : List Batch}
    {before after : Table Disk} {result : List Partition}
    (hsettles : Settles ((diskOf before device).partitions ++ batch) result)
    (hrest : Reads batches
      (before.put device { diskOf before device with partitions := result }) after) :
    Reads ((device, batch) :: batches) before after := by
  have hself : diskOf (before.put device { diskOf before device with partitions := result })
      device = { diskOf before device with partitions := result } := by
    rw [diskOf, get?_put_self, Option.getD_some]
  have hother : ∀ d, d ≠ device →
      get? (before.put device { diskOf before device with partitions := result }) d =
        get? before d := fun d hne => by rw [get?_put, if_neg hne]
  refine ⟨?_, fun d hd => ?_, fun d hd => ?_⟩
  · rw [hrest.keys, keys_put]
    rfl
  · rw [gained_cons]
    by_cases heq : device = d
    · -- the batches that follow for the device settle with what this one left
      subst heq
      rw [if_pos rfl, ← List.append_assoc]
      by_cases hmem : device ∈ batches.map Prod.fst
      · obtain ⟨final, hfinal, hget⟩ := hrest.record device hmem
        rw [hself] at hfinal hget
        exact ⟨final, (hsettles.append_iff _ _).1 hfinal, hget⟩
      · rw [gained_of_not_mem hmem, List.append_nil]
        exact ⟨result, hsettles, by rw [hrest.other _ hmem, get?_put_self]⟩
    · have hne : d ≠ device := fun h => heq h.symm
      rw [if_neg heq, List.nil_append]
      have hmem : d ∈ batches.map Prod.fst := by simpa [hne] using hd
      obtain ⟨final, hfinal, hget⟩ := hrest.record d hmem
      have hdisk : diskOf (before.put device { diskOf before device with partitions := result }) d =
          diskOf before d := by rw [diskOf, hother d hne, diskOf]
      rw [hdisk] at hfinal hget
      exact ⟨final, hfinal, hget⟩
  · rw [List.map_cons, List.mem_cons, not_or] at hd
    rw [hrest.other d hd.2, hother d hd.1]

/-- Records stay filed under their own names. -/
theorem Reads.stored {batches : List Batch} {before after : Table Disk}
    (h : Reads batches before after) (hs : Stored before) : Stored after := by
  have hkeys : after.keys.Nodup := h.keys ▸ nodup_knownAfter hs.nodup _
  refine ⟨hkeys, ?_⟩
  intro entry hentry
  have hget := get?_of_mem hkeys (show (entry.1, entry.2) ∈ after from hentry)
  by_cases hmem : entry.1 ∈ batches.map Prod.fst
  · obtain ⟨result, -, hrecord⟩ := h.record entry.1 hmem
    rw [hget, Option.some.injEq] at hrecord
    rw [hrecord]
    exact hs.name_diskOf entry.1
  · rw [h.other entry.1 hmem] at hget
    exact hs.name_of_get? hget

/-- What batches turn disks into is computed by `disksAfter`. -/
theorem Reads.disksAfter_eq {batches : List Batch} {before after : Table Disk}
    (h : Reads batches before after) (hnd : before.keys.Nodup) :
    disksAfter batches before = .ok after := by
  have hkeys : after.keys.Nodup := h.keys ▸ nodup_knownAfter hnd _
  have hrecord : ∀ device ∈ after.keys,
      (recordAfter batches before device).map (device, ·) = .ok (device, diskOf after device) := by
    intro device hdevice
    rw [recordAfter]
    split
    · next hmem =>
      obtain ⟨result, hsettles, hget⟩ := h.record device hmem
      rw [settle_eq_ok_iff.2 hsettles, diskOf_of_get? hget]
      rfl
    · next hmem =>
      rw [diskOf, ← h.other device hmem]
      rfl
  rw [disksAfter, ← h.keys, mapM_eq_ok hrecord, map_get?_keys hkeys fun _ => get?_of_mem_keys]

/-! ## One block -/

variable {rule : NamingRule} {lookup : Option (Text → Answer)}

/-- The partitions of a block have no minor numbers before they are looked up. -/
theorem minorNumber_partitions (mounts : Table Text) (b : Block) :
    ∀ p ∈ b.partitions rule mounts, p.minorNumber = 0 := by
  intro p hp
  obtain ⟨s, -, hs⟩ := List.mem_filterMap.1 hp
  obtain ⟨name, -, rfl⟩ := Option.map_eq_some_iff.1 hs
  rfl

/-- A block out of scope is passed over. -/
theorem readBlock_of_not_valid (rule : NamingRule) (lookup : Option (Text → Answer)) {b : Block}
    {s : Session} (h : s.isValid b.device = false) :
    (readBlock rule lookup b s).1.SameStore s ∧ (readBlock rule lookup b s).2 = none := by
  have hopen : openBlock Source.partitionGeometry b.device s =
      (s.tell (.outOfScope Source.partitionGeometry b.device)).tick Source.partitionGeometry
        EventKind.outOfScope := by
    rw [openBlock, if_neg (by simp [h])]
  have hvalid : (openBlock Source.partitionGeometry b.device s).isValid b.device = false := by
    rw [hopen]
    exact h
  rw [readBlock, if_neg (by simp [hvalid]), hopen]
  exact ⟨⟨rfl, rfl, rfl, rfl⟩, rfl⟩

/-- A block in scope registers its device and attaches its partitions. -/
theorem readBlock_of_valid {b : Block} {s : Session} (h : s.isValid b.device = true) :
    readBlock rule lookup b s =
      (s.register b.device).attach lookup b.device (b.partitions rule s.mounts) := by
  have hframe := openBlock_frame Source.partitionGeometry b.device s
  have hvalid : (openBlock Source.partitionGeometry b.device s).isValid b.device = true := by
    rw [Session.isValid, hframe.1]
    exact h
  rw [readBlock, if_pos hvalid, hframe.2, openBlock, if_pos h]

/-- A block in scope fails only if one of its names cannot be looked up or put in order. -/
theorem readBlock_isOk_iff {b : Block} {s : Session} (h : s.isValid b.device = true) :
    (readBlock rule lookup b s).2 = none ↔
      Session.Resolvable lookup (b.partitions rule s.mounts) ∧
        ∀ p ∈ (diskOf s.disks b.device).partitions ++ b.partitions rule s.mounts,
          Sortable p.name := by
  rw [readBlock_of_valid h, Session.attach_isOk_iff, Session.register_eq, diskOf_registration]

/-- The batch is that of the block, but for minor numbers that nothing is known of. -/
structure Block.IsBatch (rule : NamingRule) (lookup : Option (Text → Answer)) (mounts : Table Text)
    (b : Block) (batch : Batch) : Prop where
  device : batch.1 = b.device
  same : Session.SameButMinors batch.2 (b.partitions rule mounts)
  eq : ∀ minor, Session.NumbersBy lookup minor → batch = b.batch rule mounts minor

/-- A block in scope changes the partitions of its device. -/
theorem readBlock_ok {b : Block} {s : Session} (h : s.isValid b.device = true)
    (hok : (readBlock rule lookup b s).2 = none) :
    ∃ batch result, b.IsBatch rule lookup s.mounts (b.device, batch) ∧
      Settles ((diskOf s.disks b.device).partitions ++ batch) result ∧
      (readBlock rule lookup b s).1.SameStore
        (s.updateDisk b.device fun d => { d with partitions := result }) := by
  rw [readBlock_of_valid h] at hok ⊢
  obtain ⟨resolved, result, hsame, hminor, hsettles, hstore⟩ := Session.attach_ok hok
  rw [Session.register_eq, diskOf_registration] at hsettles
  rw [Session.updateDisk_register] at hstore
  refine ⟨resolved, result, ⟨rfl, hsame, fun minor hm => ?_⟩, hsettles, hstore⟩
  rw [Block.batch, ← hminor minor hm (minorNumber_partitions _ b)]

/-- A block that does not fail changes nothing but the disks, and those only if it is in scope. -/
theorem readBlock_frame {b : Block} {s : Session} (hok : (readBlock rule lookup b s).2 = none) :
    (readBlock rule lookup b s).1.isValid = s.isValid ∧
      (readBlock rule lookup b s).1.mounts = s.mounts ∧
        (readBlock rule lookup b s).1.timestamp = s.timestamp := by
  by_cases h : s.isValid b.device = true
  · obtain ⟨_, _, -, -, hstore⟩ := readBlock_ok h hok
    exact ⟨hstore.isValid, hstore.mounts, hstore.timestamp⟩
  · have hstore := (readBlock_of_not_valid rule lookup (by simpa using h)).1
    exact ⟨hstore.isValid, hstore.mounts, hstore.timestamp⟩

/-! ## All blocks -/

/-- Blocks are read without a fault if the first one is and then the others are. -/
theorem readBlocks_cons_isOk_iff {b : Block} {blocks : List Block} {s : Session} :
    (readBlocks rule lookup (b :: blocks) s).2 = none ↔
      (readBlock rule lookup b s).2 = none ∧
        (readBlocks rule lookup blocks (readBlock rule lookup b s).1).2 = none := by
  rw [readBlocks]
  cases h : (readBlock rule lookup b s).2 with
  | none => simp [goOn_of_isOk h]
  | some fault => simp [goOn_of_fault h, h]

/-- Reading blocks, if it does not fail, does to the disks what the batches of the kept ones say. -/
theorem readBlocks_reads {blocks : List Block} {s : Session}
    (hok : (readBlocks rule lookup blocks s).2 = none) :
    ∃ batches, List.Forall₂ (Block.IsBatch rule lookup s.mounts) (kept s.isValid blocks) batches ∧
      Reads batches s.disks (readBlocks rule lookup blocks s).1.disks := by
  induction blocks generalizing s with
  | nil => exact ⟨[], .nil, .nil _⟩
  | cons b blocks ih =>
    obtain ⟨hb, hrest⟩ := readBlocks_cons_isOk_iff.1 hok
    obtain ⟨hscope, hmounts, -⟩ := readBlock_frame hb
    obtain ⟨batches, hbatches, hreads⟩ := ih hrest
    rw [hscope, hmounts] at hbatches
    rw [readBlocks, goOn_of_isOk hb]
    by_cases h : s.isValid b.device = true
    · obtain ⟨batch, result, hbatch, hsettles, hstore⟩ := readBlock_ok h hb
      rw [hstore.disks] at hreads
      rw [kept_cons_of_valid h]
      exact ⟨(b.device, batch) :: batches, .cons hbatch hbatches, .cons hsettles hreads⟩
    · have h : s.isValid b.device = false := by simpa using h
      rw [(readBlock_of_not_valid rule lookup h).1.disks] at hreads
      rw [kept_cons_of_not_valid h]
      exact ⟨batches, hbatches, hreads⟩

/-- Blocks that do not fail change nothing but the disks. -/
theorem readBlocks_frame {blocks : List Block} {s : Session}
    (hok : (readBlocks rule lookup blocks s).2 = none) :
    (readBlocks rule lookup blocks s).1.isValid = s.isValid ∧
      (readBlocks rule lookup blocks s).1.mounts = s.mounts ∧
        (readBlocks rule lookup blocks s).1.timestamp = s.timestamp := by
  induction blocks generalizing s with
  | nil => exact ⟨rfl, rfl, rfl⟩
  | cons b blocks ih =>
    obtain ⟨hb, hrest⟩ := readBlocks_cons_isOk_iff.1 hok
    obtain ⟨hscope, hmounts, htime⟩ := readBlock_frame hb
    obtain ⟨hscope', hmounts', htime'⟩ := ih hrest
    rw [readBlocks, goOn_of_isOk hb]
    exact ⟨hscope'.trans hscope, hmounts'.trans hmounts, htime'.trans htime⟩

/-- The batches of blocks are for the devices of the blocks. -/
theorem map_fst_batches {mounts : Table Text} {blocks : List Block} {batches : List Batch}
    (h : List.Forall₂ (Block.IsBatch rule lookup mounts) blocks batches) :
    batches.map Prod.fst = blocks.map Block.device := by
  induction h with
  | nil => rfl
  | cons hb _ ih => rw [List.map_cons, List.map_cons, hb.device, ih]

/-- The names that batches give to a device are those of its blocks. -/
theorem mem_map_name_gained {mounts : Table Text} {blocks : List Block} {batches : List Batch}
    (h : List.Forall₂ (Block.IsBatch rule lookup mounts) blocks batches) {device name : Text} :
    name ∈ (gained device batches).map Partition.name ↔
      ∃ b ∈ blocks, b.device = device ∧ name ∈ (b.partitions rule mounts).map Partition.name := by
  induction h with
  | nil => simp [gained]
  | @cons b batch blocks batches hb _ ih =>
    rw [gained_cons, List.map_append, List.mem_append, ih, hb.device]
    by_cases hd : b.device = device
    · simp [hd, hb.same.map_name]
    · simp [hd]

/-- If the lookups give numbers by a function, so do the batches. -/
theorem batches_eq {mounts : Table Text} {minor : Text → Int}
    (hminor : Session.NumbersBy lookup minor) {blocks : List Block} {batches : List Batch}
    (h : List.Forall₂ (Block.IsBatch rule lookup mounts) blocks batches) :
    batches = blocks.map (Block.batch rule mounts minor) := by
  induction h with
  | nil => rfl
  | cons hb _ ih => rw [List.map_cons, ← hb.eq minor hminor, ← ih]

/-- The pass keeps the moment of the collection. -/
theorem readPartitionGeometry_frame {lines : List Text} {s : Session}
    (hok : (readPartitionGeometry rule lookup lines s).2 = none) :
    (readPartitionGeometry rule lookup lines s).1.timestamp = s.timestamp := by
  obtain ⟨halike, hfault⟩ := readPartitionGeometry_agrees rule lookup lines s
  rw [halike.sameStore.timestamp]
  exact (readBlocks_frame (hfault ▸ hok)).2.2

/-- The pass, if it does not fail, does to the disks what the batches of the kept blocks say. -/
theorem readPartitionGeometry_reads {lines : List Text} {s : Session}
    (hok : (readPartitionGeometry rule lookup lines s).2 = none) :
    ∃ batches, List.Forall₂ (Block.IsBatch rule lookup s.mounts)
        (kept s.isValid (blocksOf lines)) batches ∧
      Reads batches s.disks (readPartitionGeometry rule lookup lines s).1.disks := by
  obtain ⟨halike, hfault⟩ := readPartitionGeometry_agrees rule lookup lines s
  rw [halike.sameStore.disks]
  exact readBlocks_reads (hfault ▸ hok)

/-- The pass over partition geometry, if it does not fail, leaves the disks that are described. -/
theorem readPartitionGeometry_disks {minor : Text → Int} (hminor : Session.NumbersBy lookup minor)
    {s : Session} (hs : Stored s.disks) {lines : List Text}
    (hok : (readPartitionGeometry rule lookup lines s).2 = none) :
    disksAfter ((kept s.isValid (blocksOf lines)).map (Block.batch rule s.mounts minor)) s.disks =
      .ok (readPartitionGeometry rule lookup lines s).1.disks := by
  obtain ⟨halike, hfault⟩ := readPartitionGeometry_agrees rule lookup lines s
  obtain ⟨batches, hbatches, hreads⟩ := readBlocks_reads (hfault ▸ hok)
  rw [halike.sameStore.disks, ← batches_eq hminor hbatches]
  exact hreads.disksAfter_eq hs.nodup

/-- A provider that knows the minor number, and one block with a partition. -/
theorem readPartitionGeometry_disks_ada0 :
    let lookup : Text → Answer := fun _ => .ofLines ["110".toList]
    let s : Session := { valid := ["ada0".toList], mounts := [("ada0p1".toList, "/".toList)] }
    let lines := ["Geom name: ada0".toList, "1. Name: ada0p1".toList, "  Mediasize: 512 (x)".toList]
    (readPartitionGeometry geometryRule (some lookup) lines s).2 = none ∧
      disksAfter ((kept s.isValid (blocksOf lines)).map
          (Block.batch geometryRule s.mounts fun _ => 110)) s.disks =
        .ok (readPartitionGeometry geometryRule (some lookup) lines s).1.disks := by
  intro lookup s lines
  have hminor : Session.NumbersBy (some lookup) fun _ => 110 := fun _ _ => rfl
  exact ⟨rfl, readPartitionGeometry_disks hminor Stored.nil rfl⟩

end StorageInventory.Pass
