import Mathlib.Tactic
import StorageInventory.Proofs.Collection.Boundary
import StorageInventory.Proofs.Pass.PassEdits

/-!
# What a snapshot holds

The snapshot of a collection is told from the lines of its sources.  A disk stands in it for every
device in scope that a source is about, and each facet of the disk comes from one source: the
throughput from the counters, the geometry from the disk geometry, the partitions from the partition
geometry, with what the mount table and the lookups say of them.

* `collect_isOk_iff` — when a collection comes to a snapshot, under any naming rule,
* `collect_holds` — what the snapshot holds.

Snapshots are compared through `Snapshot.diskNamed`, which is blank for a device without a disk, as
the facets of a device are blank that no source is about.
-/

namespace StorageInventory

open Name Pass

/-- The disk that a name and three facets make. -/
def Disk.ofFacets (name : Text) (throughput : Throughput) (geometry : Geometry)
    (partitions : List Partition) : Disk :=
  Facet.partitions.write partitions
    (Facet.throughput.write throughput (Facet.geometry.write geometry { name }))

namespace Snapshot

/-- The disk of a name, a blank one if there is none. -/
def diskNamed (snapshot : Snapshot) (name : Text) : Disk :=
  (snapshot.disks.find? (·.name = name)).getD { name }

/-- A device without a disk in the snapshot counts as an empty disk. -/
theorem diskNamed_of_not_mem {snapshot : Snapshot} {name : Text}
    (h : name ∉ snapshot.disks.map Disk.name) : snapshot.diskNamed name = { name } := by
  have hnone : snapshot.disks.find? (·.name = name) = none := by
    rw [List.find?_eq_none]
    intro disk hdisk hname
    exact h (List.mem_map.2 ⟨disk, hdisk, by simpa using hname⟩)
  rw [diskNamed, hnone, Option.getD_none]

/-- The disk of a name is the one that has it. -/
theorem diskNamed_of_mem {snapshot : Snapshot} (hnd : (snapshot.disks.map Disk.name).Nodup)
    {disk : Disk} (h : disk ∈ snapshot.disks) : snapshot.diskNamed disk.name = disk := by
  rw [diskNamed]
  cases hfind : snapshot.disks.find? (·.name = disk.name) with
  | none => exact absurd (List.find?_eq_none.1 hfind disk h) (by simp)
  | some other =>
    have hname : other.name = disk.name := by simpa using List.find?_some hfind
    exact List.inj_on_of_nodup_map hnd (List.mem_of_find?_eq_some hfind) h hname

end Snapshot

namespace Listings

/-! ## The facets of a device -/

/-- What the counters say of a device. -/
def throughput (l : Listings) (timestamp : Int) (device : Text) : Throughput :=
  Facet.throughput.read
    (editsOf (counterEdits timestamp l.isValid l.counters) device { name := device })

/-- What the disk geometry says of a device. -/
def geometry (l : Listings) (device : Text) : Geometry :=
  Facet.geometry.read (editsOf (geometryEdits l.isValid l.diskGeometry) device { name := device })

/-- The partitions that the partition geometry gives to a device, block by block. -/
def gained (rule : NamingRule) (minor : Text → Int) (l : Listings) (device : Text) :
    List Partition :=
  Pass.gained device ((kept l.isValid (blocksOf l.partitionGeometry)).map
    (Block.batch rule (mountsOf l.mounts) minor))

/-- The names of the partitions that the partition geometry gives, block by block. -/
def names (rule : NamingRule) (l : Listings) : List Text :=
  acceptedNames rule l.isValid l.partitionGeometry

/-- What is known of a device before the partition geometry: its first two facets, each from its own
listing. -/
theorem diskOf_session (l : Listings) (timestamp : Int) (device : Text) :
    diskOf (l.session timestamp).disks device =
      .ofFacets device (l.throughput timestamp device) (l.geometry device) [] := by
  have hname : ∀ e ∈ counterEdits timestamp l.isValid l.counters, e.KeepsName :=
    fun e he => (within_counterEdits e he).keepsName
  have hname' : ∀ e ∈ geometryEdits l.isValid l.diskGeometry, e.KeepsName :=
    fun e he => (within_geometryEdits e he).keepsName
  have hcounted : (editsOf (counterEdits timestamp l.isValid l.counters) device
      { name := device }).name = device := name_editsOf hname rfl
  have hsession : diskOf (l.session timestamp).disks device =
      editsOf (geometryEdits l.isValid l.diskGeometry) device
        (editsOf (counterEdits timestamp l.isValid l.counters) device { name := device }) := by
    rw [session, diskOf_applyEdits, edits, editsOf_append]
    rfl
  refine Facet.disk_ext ?_ ?_ ?_ (l.partitions_session timestamp device)
  · rw [hsession]
    exact name_editsOf hname' hcounted
  · -- the disk geometry leaves the throughput as it is
    rw [hsession, read_editsOf_of_independent Facet.throughput_geometry within_geometryEdits
      hcounted]
    rfl
  · -- what the disk geometry says does not depend on the counters
    have hblank : Facet.geometry.read (editsOf (counterEdits timestamp l.isValid l.counters) device
        { name := device }) = Facet.geometry.read { name := device } :=
      read_editsOf_of_independent Facet.throughput_geometry.symm within_counterEdits rfl
    rw [hsession, read_editsOf_congr within_geometryEdits hcounted rfl hblank]
    rfl

/-! ## The snapshot -/

/-- What the snapshot of some listings holds, given a naming rule and minor numbers. -/
structure Holds (rule : NamingRule) (minor : Text → Int) (l : Listings) (timestamp : Int)
    (snapshot : Snapshot) : Prop where
  timestamp_eq : snapshot.timestamp = timestamp
  arranged : Arranged Disk.name snapshot.disks
  disk_iff : ∀ name, name ∈ snapshot.disks.map Disk.name ↔ l.Registered name
  diskNamed : ∀ name, ∃ partitions, Settles (l.gained rule minor name) partitions ∧
    snapshot.diskNamed name =
      .ofFacets name (l.throughput timestamp name) (l.geometry name) partitions

namespace Holds

variable {rule rule' : NamingRule} {minor minor' : Text → Int} {l l' : Listings}
  {timestamp timestamp' : Int} {snapshot snapshot' : Snapshot}

/-- The partitions of a disk are those that its device gains, once they have settled. -/
theorem settles (h : l.Holds rule minor timestamp snapshot) {disk : Disk}
    (hdisk : disk ∈ snapshot.disks) :
    Settles (l.gained rule minor disk.name) disk.partitions := by
  obtain ⟨partitions, hsettles, hnamed⟩ := h.diskNamed disk.name
  rw [Snapshot.diskNamed_of_mem h.arranged.nodup hdisk] at hnamed
  rw [hnamed]
  exact hsettles

/-- A snapshot is told by its names and what it shows for them. -/
theorem disks_eq (h : l.Holds rule minor timestamp snapshot) :
    snapshot.disks = (snapshot.disks.map Disk.name).map snapshot.diskNamed := by
  rw [List.map_map]
  conv_lhs => rw [← List.map_id snapshot.disks]
  exact List.map_congr_left fun disk hdisk =>
    (Snapshot.diskNamed_of_mem h.arranged.nodup hdisk).symm

/-- Listings that are about the same devices have snapshots of the same names. -/
theorem map_name_eq (h : l.Holds rule minor timestamp snapshot)
    (h' : l'.Holds rule' minor' timestamp' snapshot')
    (hsame : ∀ name, l.Registered name ↔ l'.Registered name) :
    snapshot.disks.map Disk.name = snapshot'.disks.map Disk.name := by
  refine (arranged_map_iff.2 h.arranged).eq_of_perm (arranged_map_iff.2 h'.arranged) ?_
  rw [List.perm_ext_iff_of_nodup h.arranged.nodup h'.arranged.nodup]
  intro name
  rw [h.disk_iff, h'.disk_iff, hsame]

end Holds

end Listings

variable {p : Provider} {rule : NamingRule} {timestamp : Int}

/-- A snapshot shows, for every name, what the session knows of it. -/
theorem diskNamed_eq_diskOf {snapshot : Snapshot} {disks : Table Disk} (h : Stored disks)
    (hperm : snapshot.disks.Perm disks.values) (name : Text) :
    snapshot.diskNamed name = diskOf disks name := by
  have hnames : (snapshot.disks.map Disk.name).Perm disks.keys :=
    h.map_name_values ▸ hperm.map Disk.name
  cases hget : disks.get? name with
  | none =>
    have hnot : name ∉ snapshot.disks.map Disk.name := fun hmem =>
      (Table.get?_eq_none_iff disks name).1 hget (hnames.mem_iff.1 hmem)
    rw [Snapshot.diskNamed_of_not_mem hnot, diskOf, hget, Option.getD_none]
  | some disk =>
    obtain rfl := h.name_of_get? hget
    have hmem : disk ∈ snapshot.disks :=
      hperm.mem_iff.2 (List.mem_map_of_mem (Table.mem_of_get? hget))
    rw [Snapshot.diskNamed_of_mem (hnames.nodup_iff.2 h.nodup) hmem, diskOf_of_get? hget]

/-- A collection comes to a snapshot exactly if the blocks in scope describe partitions whose names
can be looked up and put in order, and the registered devices can be put in order. -/
theorem collect_isOk_iff :
    (∃ snapshot, (collect p rule timestamp).2 = .ok snapshot) ↔
      (∀ b ∈ kept (gather p timestamp).2.isValid
          (blocksOf (gather p timestamp).2.partitionGeometry),
        b.IsSound rule (some p.minor) (mountsOf (gather p timestamp).2.mounts)) ∧
        ∀ name, (gather p timestamp).2.Registered name → Sortable name := by
  have hs := gather_sameStore p timestamp
  rw [collect_eq]
  generalize gather p timestamp = gathered at hs ⊢
  obtain ⟨s, l⟩ := gathered
  dsimp only at hs ⊢
  have hscope : s.isValid = l.isValid := hs.isValid
  have hmounts : s.mounts = mountsOf l.mounts := hs.mounts
  -- without partitions in the store, a block fails only by what it says itself
  have hpass : (readPartitionGeometry rule (some p.minor) l.partitionGeometry s).2 = none ↔
      ∀ b ∈ kept l.isValid (blocksOf l.partitionGeometry),
        b.IsSound rule (some p.minor) (mountsOf l.mounts) := by
    rw [(readPartitionGeometry_agrees rule (some p.minor) l.partitionGeometry s).2,
      readBlocks_isOk_iff_of_tidy (hs.disks ▸ l.tidy_session timestamp), hscope, hmounts]
  simp only [present_eq_ok_iff, exists_and_left, ← hpass]
  refine and_congr_right fun hfault => ?_
  obtain ⟨batches, hbatches, hreads⟩ := partitionPass_reads p hs hfault
  exact snapshot_isOk_iff_registered (hreads.stored (l.stored_session timestamp))
    (hreads.tidy (l.tidy_session timestamp)) (mem_keys_of_reads (map_fst_batches hbatches) hreads)

/-- The same, told by names: those of the partitions can be looked up and put in order, and those of
the registered devices put in order. -/
theorem collect_isOk_iff_names :
    (∃ snapshot, (collect p rule timestamp).2 = .ok snapshot) ↔
      (∀ name ∈ (gather p timestamp).2.names rule, isPartitionName name = true ∧ Sortable name) ∧
        ∀ name, (gather p timestamp).2.Registered name → Sortable name := by
  rw [collect_isOk_iff, Listings.names, acceptedNames, List.forall_mem_flatMap]
  refine and_congr_left fun _ => forall₂_congr fun b _ => ?_
  rw [isSound_iff]
  exact forall₂_congr fun name _ => and_congr_left fun _ => forall_prop_of_true (by simp)

/-- The snapshot of a collection holds what its listings say. -/
theorem collect_holds {minor : Text → Int} (hminor : Session.NumbersBy (some p.minor) minor)
    {snapshot : Snapshot} (hok : (collect p rule timestamp).2 = .ok snapshot) :
    (gather p timestamp).2.Holds rule minor timestamp snapshot := by
  have hs := gather_sameStore p timestamp
  rw [collect_eq] at hok
  generalize gather p timestamp = gathered at hs hok ⊢
  obtain ⟨s, l⟩ := gathered
  dsimp only at hs hok ⊢
  obtain ⟨hfault, hsnapshot⟩ := present_eq_ok_iff.1 hok
  obtain ⟨batches, hbatches, hreads⟩ := partitionPass_reads p hs hfault
  have hstored := hreads.stored (l.stored_session timestamp)
  have hkeys := mem_keys_of_reads (map_fst_batches hbatches) hreads
  have hmoment := (readPartitionGeometry_frame hfault).trans hs.timestamp
  obtain ⟨htime, harranged, hperm⟩ :=
    snapshot_ok hstored (hreads.tidy (l.tidy_session timestamp)) hsnapshot
  refine ⟨htime.trans hmoment, harranged, fun name => ?_, fun name => ?_⟩
  · rw [(hperm.map Disk.name).mem_iff, hstored.map_name_values, hkeys]
  · obtain ⟨result, hsettles, hdisk⟩ := hreads.exists_settles (l.tidy_session timestamp) name
    rw [l.partitions_session, List.nil_append, batches_eq hminor hbatches] at hsettles
    refine ⟨result, hsettles, ?_⟩
    -- the pass gives partitions to the disks, and leaves their other facets
    rw [diskNamed_eq_diskOf hstored hperm, hdisk, l.diskOf_session]
    rfl

end StorageInventory
