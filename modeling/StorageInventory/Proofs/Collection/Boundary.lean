import Mathlib.Tactic
import StorageInventory.Proofs.Collection.Stages

/-!
# Where a collection fails

A collection survives whatever its sources do, with one exception: it fails if a device that it
registers, or a partition that it accepts, has a name without a place in the natural order.  No
other line, however broken, and no other answer makes it fail.

* `collect_error_iff` — a collection fails exactly at such a name, and with a value error,
* `collect_shows_iff` — it comes to a snapshot of all that is registered and accepted exactly if
  there is no such name.

Both ask for the same two facts: nothing else fails on the way, and every name that is registered or
accepted is sorted in the end.
-/

namespace StorageInventory

open Name Pass

namespace Listings

/-- A device in scope that a row of the counters or a header of either geometry is about. -/
def Registered (l : Listings) (device : Text) : Prop :=
  l.isValid device = true ∧ ((∃ line ∈ l.counters, IsCounterRow line device) ∨
    (∃ line ∈ l.diskGeometry, Names line device) ∨
      ∃ line ∈ l.partitionGeometry, Names line device)

/-- The geometry rule accepts the name in a block of the device. -/
def AcceptedFor (l : Listings) (device name : Text) : Prop :=
  ∃ b ∈ blocksOf l.partitionGeometry, b.device = device ∧
    ∃ line ∈ b.body, geometryRule line device = some name

/-- The name is that of a registered device, or of a partition accepted for a device in scope. -/
def HasName (l : Listings) (name : Text) : Prop :=
  l.Registered name ∨ ∃ device, l.isValid device = true ∧ l.AcceptedFor device name

/-- The snapshot shows the registered devices and, for each, the partitions accepted for it, all in
natural order. -/
structure Shows (l : Listings) (snapshot : Snapshot) : Prop where
  arranged : Arranged Disk.name snapshot.disks
  disk_iff : ∀ name, name ∈ snapshot.disks.map Disk.name ↔ l.Registered name
  partitions : ∀ disk ∈ snapshot.disks, Arranged Partition.name disk.partitions ∧
    ∀ name, name ∈ disk.partitions.map Partition.name ↔ l.AcceptedFor disk.name name

/-- A name is accepted if it is for some device in scope. -/
theorem accepted_iff (l : Listings) (name : Text) :
    Accepted l.isValid l.partitionGeometry name ↔
      ∃ device, l.isValid device = true ∧ l.AcceptedFor device name := by
  constructor
  · rintro ⟨b, hb, hvalid, hline⟩
    exact ⟨b.device, hvalid, b, hb, rfl, hline⟩
  · rintro ⟨_, hvalid, b, hb, rfl, hline⟩
    exact ⟨b, hb, hvalid, hline⟩

end Listings

/-! ## The partition geometry of a collection -/

section

variable (p : Provider) {timestamp : Int} {l : Listings} {s : Session}

/-- The pass over the partition geometry, seen from what has been gathered. -/
theorem partitionPass_isOk_iff (hs : s.SameStore (l.session timestamp)) :
    (readPartitionGeometry geometryRule (some p.minor) l.partitionGeometry s).2 = none ↔
      ∀ name, (∃ device, l.isValid device = true ∧ l.AcceptedFor device name) → Sortable name := by
  have hscope : s.isValid = l.isValid := hs.isValid
  rw [readPartitionGeometry_isOk_iff _ _ (hs.disks ▸ l.tidy_session timestamp), hscope]
  exact forall_congr' fun name => imp_congr_left (l.accepted_iff name)

/-- What the pass, if it does not fail, does to the disks that have been gathered. -/
theorem partitionPass_reads {rule : NamingRule} (hs : s.SameStore (l.session timestamp))
    (hok : (readPartitionGeometry rule (some p.minor) l.partitionGeometry s).2 = none) :
    ∃ batches,
      List.Forall₂ (Block.IsBatch rule (some p.minor) (mountsOf l.mounts))
        (kept l.isValid (blocksOf l.partitionGeometry)) batches ∧
      Reads batches (l.session timestamp).disks
        (readPartitionGeometry rule (some p.minor) l.partitionGeometry s).1.disks := by
  obtain ⟨batches, hbatches, hreads⟩ := readPartitionGeometry_reads hok
  have hscope : s.isValid = l.isValid := hs.isValid
  rw [hs.disks] at hreads
  rw [hscope, hs.mounts] at hbatches
  exact ⟨batches, hbatches, hreads⟩

/-- The disks known after the pass are the registered devices. -/
theorem mem_keys_of_reads {batches : List Batch} {after : Table Disk}
    (hdevices : batches.map Prod.fst =
      (kept l.isValid (blocksOf l.partitionGeometry)).map Block.device)
    (hreads : Reads batches (l.session timestamp).disks after) (name : Text) :
    name ∈ Table.keys after ↔ l.Registered name := by
  rw [hreads.keys, mem_knownAfter, hdevices, l.mem_keys_session, mem_map_device_kept,
    ← and_or_left, Listings.Registered, or_assoc]

/-- What the pass leaves: the registered devices, each with the partitions accepted for it. -/
structure Settled (l : Listings) (t : Session) : Prop where
  stored : Stored t.disks
  tidy : Tidy t.disks
  key_iff : ∀ name, name ∈ t.disks.keys ↔ l.Registered name
  partition_iff : ∀ disk ∈ t.disks.values, ∀ name,
    name ∈ disk.partitions.map Partition.name ↔ l.AcceptedFor disk.name name

/-- After a pass over partitions that does not fail, the session is settled. -/
theorem settled_partitionPass (hs : s.SameStore (l.session timestamp))
    (hok : (readPartitionGeometry geometryRule (some p.minor) l.partitionGeometry s).2 = none) :
    Settled l (readPartitionGeometry geometryRule (some p.minor) l.partitionGeometry s).1 := by
  obtain ⟨batches, hbatches, hreads⟩ := partitionPass_reads p hs hok
  have hdevices := map_fst_batches hbatches
  have hstored := hreads.stored (l.stored_session timestamp)
  have hkey := mem_keys_of_reads hdevices hreads
  refine ⟨hstored, hreads.tidy (l.tidy_session timestamp), hkey, ?_⟩
  intro disk hdisk name
  obtain ⟨⟨device, disk⟩, hentry, rfl⟩ := List.mem_map.1 hdisk
  have hget := Table.get?_of_mem hstored.nodup hentry
  have hname : disk.name = device := hstored.name_of_get? hget
  have hvalid : l.isValid device = true := ((hkey device).1 (List.mem_map_of_mem hentry)).1
  have hgained : name ∈ disk.partitions.map Partition.name ↔
      name ∈ (gained device batches).map Partition.name := by
    by_cases hmem : device ∈ batches.map Prod.fst
    · obtain ⟨result, hsettles, hrecord⟩ := hreads.record device hmem
      rw [l.partitions_session, List.nil_append] at hsettles
      rw [hget, Option.some.injEq] at hrecord
      rw [hrecord]
      exact hsettles.name_mem_iff name
    · have hbefore := hreads.other device hmem
      rw [hget] at hbefore
      rw [gained_of_not_mem hmem, ← diskOf_of_get? hbefore.symm, l.partitions_session]
  dsimp only
  rw [hname, hgained, mem_map_name_gained hbatches]
  constructor
  · rintro ⟨b, hb, rfl, hpartition⟩
    exact ⟨b, (List.mem_filter.1 hb).1, rfl, (name_mem_partitions_iff _).1 hpartition⟩
  · rintro ⟨b, hb, rfl, hline⟩
    exact ⟨b, List.mem_filter.2 ⟨hb, hvalid⟩, rfl, (name_mem_partitions_iff _).2 hline⟩

end

/-! ## The boundary -/

/-- What the collection comes to once the partitions are attached. -/
theorem present_of_isOk {p : Provider} {rule : NamingRule} {lines : List Text} {s : Session}
    (hok : (readPartitionGeometry rule (some p.minor) lines s).2 = none) :
    (present p rule lines s).2 =
      ((readPartitionGeometry rule (some p.minor) lines s).1.snapshot).2 := by
  rw [present, ← Prod.mk.eta (p := readPartitionGeometry rule (some p.minor) lines s), hok]
  dsimp only
  rcases Session.snapshot _ with ⟨t, fault | snapshot⟩ <;> rfl

/-- A pass over partitions that fails leaves no snapshot. -/
theorem present_of_fault {p : Provider} {rule : NamingRule} {lines : List Text} {s : Session}
    {fault : Fault} (h : (readPartitionGeometry rule (some p.minor) lines s).2 = some fault) :
    (present p rule lines s).2 = .error fault := by
  rw [present, ← Prod.mk.eta (p := readPartitionGeometry rule (some p.minor) lines s), h]

/-- It comes to a snapshot exactly if they are attached without a fault and can be put in order. -/
theorem present_eq_ok_iff {p : Provider} {rule : NamingRule} {lines : List Text} {s : Session}
    {snapshot : Snapshot} :
    (present p rule lines s).2 = .ok snapshot ↔
      (readPartitionGeometry rule (some p.minor) lines s).2 = none ∧
        (readPartitionGeometry rule (some p.minor) lines s).1.snapshot.2 = .ok snapshot := by
  cases h : (readPartitionGeometry rule (some p.minor) lines s).2 with
  | none => rw [present_of_isOk h, and_iff_right rfl]
  | some fault =>
    rw [present_of_fault h]
    exact iff_of_false (by simp) (by simp)

/-- A session of the registered devices has a snapshot exactly if they can be put in order. -/
theorem snapshot_isOk_iff_registered {l : Listings} {t : Session} (hs : Stored t.disks)
    (ht : Tidy t.disks) (hkeys : ∀ name, name ∈ t.disks.keys ↔ l.Registered name) :
    (∃ snapshot, t.snapshot.2 = .ok snapshot) ↔ ∀ name, l.Registered name → Sortable name := by
  rw [snapshot_isOk_iff hs ht, ← List.forall_mem_map (f := Disk.name) (P := Sortable),
    hs.map_name_values]
  exact forall_congr' fun name => imp_congr_left (hkeys name)

/-- A settled session has a snapshot exactly if all devices in it are sortable. -/
theorem Settled.snapshot_isOk_iff {l : Listings} {t : Session} (h : Settled l t) :
    (∃ snapshot, t.snapshot.2 = .ok snapshot) ↔ ∀ name, l.Registered name → Sortable name :=
  snapshot_isOk_iff_registered h.stored h.tidy h.key_iff

/-- A snapshot of what has settled shows it. -/
theorem Settled.shows {l : Listings} {t : Session} (h : Settled l t) {snapshot : Snapshot}
    (hsnapshot : t.snapshot.2 = .ok snapshot) : l.Shows snapshot := by
  obtain ⟨-, harranged, hperm⟩ := snapshot_ok h.stored h.tidy hsnapshot
  refine ⟨harranged, fun name => ?_, fun disk hdisk => ?_⟩
  · rw [(hperm.map Disk.name).mem_iff, h.stored.map_name_values, h.key_iff]
  · have hmem := hperm.mem_iff.1 hdisk
    exact ⟨h.tidy.arranged h.stored.nodup hmem, h.partition_iff disk hmem⟩

/-- A collection comes to an order fault, or to a snapshot that shows what it should. -/
theorem collect_cases (p : Provider) (timestamp : Int) :
    (∃ fault, (collect p geometryRule timestamp).2 = .error fault ∧ IsOrderFault fault ∧
        ¬ ∀ name, (gather p timestamp).2.HasName name → Sortable name) ∨
      ∃ snapshot, (collect p geometryRule timestamp).2 = .ok snapshot ∧
        (gather p timestamp).2.Shows snapshot ∧
        ∀ name, (gather p timestamp).2.HasName name → Sortable name := by
  have hs := gather_sameStore p timestamp
  rw [collect_eq]
  generalize gather p timestamp = gathered at hs ⊢
  obtain ⟨s, l⟩ := gathered
  dsimp only at hs ⊢
  cases hpass : (readPartitionGeometry geometryRule (some p.minor) l.partitionGeometry s).2 with
  | some fault =>
    -- an accepted name is at fault
    refine .inl ⟨fault, present_of_fault hpass, isOrderFault_of_readPartitionGeometry hpass,
      fun hall => ?_⟩
    have hok := (partitionPass_isOk_iff p hs).2 fun name hname => hall name (.inr hname)
    rw [hok] at hpass
    exact absurd hpass (by simp)
  | none =>
    -- accepted names are sortable, and what may still fail is sorting the disks
    have hsettled := settled_partitionPass p hs hpass
    have haccepted := (partitionPass_isOk_iff p hs).1 hpass
    rw [present_of_isOk hpass]
    cases hsnapshot : (Session.snapshot _).2 with
    | error fault =>
      have hsort := hsnapshot
      rw [snapshot_eq hsettled.stored hsettled.tidy, map_eq_error_iff] at hsort
      refine .inl ⟨fault, rfl, isOrderFault_of_sortByName hsort, fun hall => ?_⟩
      obtain ⟨snapshot, hok⟩ :=
        hsettled.snapshot_isOk_iff.2 fun name hname => hall name (.inl hname)
      rw [hsnapshot] at hok
      exact absurd hok (by simp)
    | ok snapshot =>
      have hregistered := hsettled.snapshot_isOk_iff.1 ⟨snapshot, hsnapshot⟩
      refine .inr ⟨snapshot, rfl, hsettled.shows hsnapshot, fun name hname => ?_⟩
      rcases hname with hname | hname
      · exact hregistered name hname
      · exact haccepted name hname

/-- A collection fails exactly if a name that is registered or accepted is not sortable; the fault
is then a value error, and never that a name cannot be looked up. -/
theorem collect_error_iff (p : Provider) (timestamp : Int) :
    ((∃ fault, (collect p geometryRule timestamp).2 = .error fault) ↔
        ∃ name, (gather p timestamp).2.HasName name ∧ ¬ Sortable name) ∧
      ∀ fault, (collect p geometryRule timestamp).2 = .error fault →
        fault.className = "ValueError".toList ∧ ∀ name, fault ≠ .partitionName name := by
  have hnames : (∃ name, (gather p timestamp).2.HasName name ∧ ¬ Sortable name) ↔
      ¬ ∀ name, (gather p timestamp).2.HasName name → Sortable name := by
    simp only [not_forall, exists_prop]
  rw [hnames]
  rcases collect_cases p timestamp with
    ⟨fault, hcollect, horder, hnot⟩ | ⟨snapshot, hcollect, -, hall⟩
  · rw [hcollect]
    refine ⟨iff_of_true ⟨fault, rfl⟩ hnot, ?_⟩
    intro other hother
    obtain rfl := Except.error.inj hother
    exact ⟨horder.className, fun name => horder.ne_partitionName name⟩
  · rw [hcollect]
    exact ⟨iff_of_false (by simp) (not_not.2 hall), by simp⟩

/-- A superscript digit is no decimal digit but looks like one, so a device of this name ends the
collection. -/
example :
    let device := ['d', 'a', '1', '²']
    let row := device ++ " 1 1 1 1 0 0 1".toList
    let findings : Findings :=
      { devices := .ok [device], mounts := .ok none, counters := .ok [row]
        diskGeometry := .ok none, partitionGeometry := .ok none, minor := fun _ => .ok none }
    (collect (.ofFindings findings) geometryRule 0).2 = .error (.notInteger 10 ['²']) := by
  rfl

/-- A collection comes to a snapshot of all devices registered and all partitions accepted, exactly
if their names are sortable. -/
theorem collect_shows_iff (p : Provider) (timestamp : Int) :
    (∃ snapshot, (collect p geometryRule timestamp).2 = .ok snapshot ∧
        (gather p timestamp).2.Shows snapshot) ↔
      ∀ name, (gather p timestamp).2.HasName name → Sortable name := by
  rcases collect_cases p timestamp with
    ⟨fault, hcollect, -, hnot⟩ | ⟨snapshot, hcollect, hshows, hall⟩
  · exact iff_of_false (by simp [hcollect]) hnot
  · exact iff_of_true ⟨snapshot, hcollect, hshows⟩ hall

/-- If nothing fails, the snapshot holds the disks gathered with the partitions that the blocks give
to them. -/
theorem collect_reads (p : Provider) {minor : Text → Int}
    (hminor : Session.NumbersBy (some p.minor) minor) (timestamp : Int)
    (hall : ∀ name, (gather p timestamp).2.HasName name → Sortable name) :
    ∃ snapshot after, (collect p geometryRule timestamp).2 = .ok snapshot ∧
      snapshot.timestamp = timestamp ∧ Arranged Disk.name snapshot.disks ∧
      snapshot.disks.Perm (Table.values after) ∧ Stored after ∧
      (∀ name, name ∈ Table.keys after ↔ (gather p timestamp).2.Registered name) ∧
      Reads ((kept (gather p timestamp).2.isValid
          (blocksOf (gather p timestamp).2.partitionGeometry)).map
            (Block.batch geometryRule (mountsOf (gather p timestamp).2.mounts) minor))
        ((gather p timestamp).2.session timestamp).disks after := by
  have hs := gather_sameStore p timestamp
  rw [collect_eq]
  generalize gather p timestamp = gathered at hs hall ⊢
  obtain ⟨s, l⟩ := gathered
  dsimp only at hs hall ⊢
  -- sortable names are all that the pass and the snapshot need
  have hpass := (partitionPass_isOk_iff p hs).2 fun name hname => hall name (.inr hname)
  have hsettled := settled_partitionPass p hs hpass
  obtain ⟨batches, hbatches, hreads⟩ := partitionPass_reads p hs hpass
  obtain ⟨snapshot, hok⟩ :=
    hsettled.snapshot_isOk_iff.2 fun name hname => hall name (.inl hname)
  obtain ⟨htime, harranged, hperm⟩ := snapshot_ok hsettled.stored hsettled.tidy hok
  have hmoment := (readPartitionGeometry_frame hpass).trans hs.timestamp
  rw [present_of_isOk hpass]
  exact ⟨snapshot, _, hok, htime.trans hmoment, harranged, hperm, hsettled.stored,
    hsettled.key_iff, batches_eq hminor hbatches ▸ hreads⟩

end StorageInventory
