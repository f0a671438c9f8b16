import Mathlib.Tactic
import StorageInventory.Proofs.Collection.Contents

/-!
# Collections from some of the sources

A source that fails, gives nothing or gives no lines costs what it would have said, and nothing
else.  A `Selection` says which sources are there.  The collection from the selected sources comes
to a snapshot whenever the collection from all of them does, and every disk shows there what is left
of it: the fields of the selected sources as they are, the others blank.

* `collect_keep` — the snapshot of the selected sources, from that of all sources.

With all sources but one selected this is what the failure of one source costs; with the counters,
or the disk geometry, or the partition geometry with mount points and lookups, it says where the
fields of a disk come from.
-/

namespace StorageInventory

open Name Pass

/-- Which sources are there, besides the device list. -/
structure Selection where
  mounts : Bool := false
  counters : Bool := false
  diskGeometry : Bool := false
  partitionGeometry : Bool := false
  minors : Bool := false

/-- The listings of the selected sources; the others are empty. -/
def Listings.keep (σ : Selection) (l : Listings) : Listings where
  devices := l.devices
  mounts := if σ.mounts then l.mounts else []
  counters := if σ.counters then l.counters else []
  diskGeometry := if σ.diskGeometry then l.diskGeometry else []
  partitionGeometry := if σ.partitionGeometry then l.partitionGeometry else []

/-- The minor numbers, if they are looked up. -/
def Selection.minor (σ : Selection) (minor : Text → Int) (name : Text) : Int :=
  if σ.minors then minor name else 0

/-- What is left of a partition. -/
def Partition.keep (σ : Selection) (p : Partition) : Partition :=
  { p with
    mountPoint := if σ.mounts then p.mountPoint else []
    minorNumber := if σ.minors then p.minorNumber else 0 }

/-- Keeping sources leaves the names of partitions. -/
theorem Partition.name_keep (σ : Selection) (p : Partition) : (p.keep σ).name = p.name := rfl

/-- What is left of a disk. -/
def Disk.keep (σ : Selection) (d : Disk) : Disk :=
  .ofFacets d.name (if σ.counters then Facet.throughput.read d else {})
    (if σ.diskGeometry then Facet.geometry.read d else {})
    (if σ.partitionGeometry then d.partitions.map (Partition.keep σ) else [])

/-- What is kept of a disk is kept of its parts. -/
theorem Disk.keep_ofFacets (σ : Selection) (name : Text) (throughput : Throughput)
    (geometry : Geometry) (partitions : List Partition) :
    (Disk.ofFacets name throughput geometry partitions).keep σ =
      .ofFacets name (if σ.counters then throughput else {})
        (if σ.diskGeometry then geometry else {})
        (if σ.partitionGeometry then partitions.map (Partition.keep σ) else []) := rfl

/-! ## The facets of the selected sources -/

namespace Listings

variable (σ : Selection) (l : Listings)

/-- The throughput of a device is kept with the counters. -/
theorem throughput_keep (timestamp : Int) (device : Text) :
    (l.keep σ).throughput timestamp device =
      if σ.counters then l.throughput timestamp device else {} := by
  have hcounters : (l.keep σ).counters = if σ.counters then l.counters else [] := rfl
  rw [throughput, hcounters]
  split <;> rfl

/-- The geometry of a device is kept with the disk geometry. -/
theorem geometry_keep (device : Text) :
    (l.keep σ).geometry device = if σ.diskGeometry then l.geometry device else {} := by
  have hlines : (l.keep σ).diskGeometry = if σ.diskGeometry then l.diskGeometry else [] := rfl
  rw [geometry, hlines]
  split <;> rfl

/-- The mount points are kept with the mount table. -/
theorem mountsOf_keep :
    mountsOf (l.keep σ).mounts = if σ.mounts then mountsOf l.mounts else [] := by
  have hmounts : (l.keep σ).mounts = if σ.mounts then l.mounts else [] := rfl
  rw [hmounts]
  split <;> rfl

/-- A block describes the same partitions, but for the fields of the sources left out. -/
theorem batch_keep (rule : NamingRule) (minor : Text → Int) (b : Block) :
    b.batch rule (mountsOf (l.keep σ).mounts) (σ.minor minor) =
      (b.device, (b.batch rule (mountsOf l.mounts) minor).2.map (Partition.keep σ)) := by
  have hdescribe : ∀ s, (describe rule (mountsOf (l.keep σ).mounts) b.device s).map
        (Session.numbered (σ.minor minor)) =
      ((describe rule (mountsOf l.mounts) b.device s).map (Session.numbered minor)).map
        (Partition.keep σ) := by
    intro s
    rw [describe, describe, Option.map_map, Option.map_map, Option.map_map, mountsOf_keep]
    congr 1
    funext name
    -- the mount point and the minor number depend on the name, and lines say nothing of them
    cases hmounts : σ.mounts <;> cases hminors : σ.minors <;>
      simp [Session.numbered, Partition.keep, Selection.minor, blankPartition, fill, hmounts,
        hminors]
  rw [Block.batch, Block.batch, Block.partitions, Block.partitions, List.map_filterMap,
    List.map_filterMap, List.map_filterMap]
  simp only [hdescribe]

/-- The blocks of partitions are kept with the partition geometry. -/
theorem partitionGeometry_keep :
    (l.keep σ).partitionGeometry = if σ.partitionGeometry then l.partitionGeometry else [] := rfl

/-- The partitions that a device gains from the selected sources. -/
theorem gained_keep (rule : NamingRule) (minor : Text → Int) (device : Text) :
    (l.keep σ).gained rule (σ.minor minor) device =
      if σ.partitionGeometry then (l.gained rule minor device).map (Partition.keep σ) else [] := by
  have hbatches : Block.batch rule (mountsOf (l.keep σ).mounts) (σ.minor minor) =
      (fun batch => (batch.1, batch.2.map (Partition.keep σ))) ∘
        Block.batch rule (mountsOf l.mounts) minor := funext (batch_keep σ l rule minor)
  rw [gained, hbatches, ← List.map_map, gained_map, partitionGeometry_keep]
  split <;> rfl

/-- No device is registered only because sources are missing. -/
theorem registered_of_keep {σ : Selection} {l : Listings} {device : Text}
    (h : (l.keep σ).Registered device) : l.Registered device := by
  have hsub : ∀ (selected : Bool) (lines : List Text),
      ∀ line ∈ (if selected then lines else []), line ∈ lines := by
    intro selected lines line hline
    cases selected with
    | false => simp at hline
    | true => exact hline
  obtain ⟨hvalid, hlines⟩ := h
  refine ⟨hvalid, hlines.imp ?_ (Or.imp ?_ ?_)⟩
  · rintro ⟨line, hline, hrow⟩
    exact ⟨line, hsub _ _ line hline, hrow⟩
  · rintro ⟨line, hline, hnames⟩
    exact ⟨line, hsub _ _ line hline, hnames⟩
  · rintro ⟨line, hline, hnames⟩
    exact ⟨line, hsub _ _ line hline, hnames⟩

end Listings

/-! ## The collection from the selected sources -/

variable {p q : Provider} {rule : NamingRule} {timestamp : Int} {minor : Text → Int}
  {σ : Selection}

/-- A collection from some of the sources comes to a snapshot if that from all of them does. -/
theorem collect_isOk_of_keep {snapshot : Snapshot}
    (hok : (collect p rule timestamp).2 = .ok snapshot)
    (hlines : (gather q timestamp).2 = (gather p timestamp).2.keep σ) :
    ∃ part, (collect q rule timestamp).2 = .ok part := by
  obtain ⟨hsound, hsortable⟩ := collect_isOk_iff.1 ⟨snapshot, hok⟩
  rw [collect_isOk_iff, hlines]
  refine ⟨fun b hb => ?_, fun name hname => hsortable name (Listings.registered_of_keep hname)⟩
  -- the block is one of all, and its names are the same
  have hmem : b ∈ kept (gather p timestamp).2.isValid
      (blocksOf (gather p timestamp).2.partitionGeometry) := by
    rw [Listings.partitionGeometry_keep] at hb
    split at hb
    · exact hb
    · simp [blocksOf, kept] at hb
  have hall := isSound_iff.1 (hsound b hmem)
  exact isSound_iff.2 fun name hname => ⟨fun _ => (hall name hname).1 (by simp),
    (hall name hname).2⟩

/-- The disks of a snapshot are those of the devices in scope that a source is about.  A collection
from some of the sources comes to a snapshot of the devices that these are about, and shows what is
left of each disk: the fields of the sources as they are in the snapshot from all of them, and the
others blank. -/
theorem collect_keep (hminor : Session.NumbersBy (some p.minor) minor) {snapshot : Snapshot}
    (hok : (collect p rule timestamp).2 = .ok snapshot) :
    (∀ name, name ∈ snapshot.disks.map Disk.name ↔ (gather p timestamp).2.Registered name) ∧
      ∀ (σ : Selection) (q : Provider),
        (gather q timestamp).2 = (gather p timestamp).2.keep σ →
        Session.NumbersBy (some q.minor) (σ.minor minor) →
        ∃ part, (collect q rule timestamp).2 = .ok part ∧
          (∀ name, name ∈ part.disks.map Disk.name ↔
            ((gather p timestamp).2.keep σ).Registered name) ∧
          ∀ disk ∈ snapshot.disks, part.diskNamed disk.name = disk.keep σ := by
  have hall := collect_holds hminor hok
  refine ⟨hall.disk_iff, fun σ q hlines hnumbers => ?_⟩
  obtain ⟨part, hpart⟩ := collect_isOk_of_keep hok hlines
  have hholds := collect_holds hnumbers hpart
  rw [hlines] at hholds
  refine ⟨part, hpart, hholds.disk_iff, fun disk hdisk => ?_⟩
  obtain ⟨partitions, hsettles, hdiskNamed⟩ := hall.diskNamed disk.name
  obtain ⟨left, hleft, hleftNamed⟩ := hholds.diskNamed disk.name
  rw [Snapshot.diskNamed_of_mem hall.arranged.nodup hdisk] at hdiskNamed
  -- partitions settle to what is left of those that all of them settle to
  have hpartitions :
      left = if σ.partitionGeometry then partitions.map (Partition.keep σ) else [] := by
    have hmap : Settles (((gather p timestamp).2.gained rule minor disk.name).map
        (Partition.keep σ))
        (partitions.map (Partition.keep σ)) := hsettles.map (Partition.name_keep σ)
    rw [Listings.gained_keep] at hleft
    split at hleft
    · next hgeometry => rw [if_pos hgeometry, hleft.unique hmap]
    · next hgeometry =>
      rw [if_neg hgeometry, hleft.unique (settles_of_arranged ⟨by simp, by simp⟩)]
  rw [hleftNamed, Listings.throughput_keep, Listings.geometry_keep, hpartitions,
    ← Disk.keep_ofFacets, ← hdiskNamed]

/-- One device and all of its sources, each of which may be missing. -/
theorem collect_keep_ada0 :
    let findings : Findings :=
      { devices := .ok ["ada0".toList], mounts := .ok none
        counters := .ok ["ada0 1 2 3 4 0 0 5".toList]
        diskGeometry := .ok ["Geom name: ada0".toList, "   descr: disk".toList]
        partitionGeometry := .ok ["Geom name: ada0".toList, "1. Name: ada0p1".toList]
        minor := fun _ => .ok (some ["110".toList]) }
    let p := Provider.ofFindings findings
    let q := Provider.ofFindings { findings with diskGeometry := .error .noLines }
    let σ : Selection :=
      { mounts := true, counters := true, partitionGeometry := true, minors := true }
    ∃ snapshot part, (collect p geometryRule 7).2 = .ok snapshot ∧
      (collect q geometryRule 7).2 = .ok part ∧
      ∀ disk ∈ snapshot.disks, part.diskNamed disk.name = disk.keep σ := by
  intro findings p q σ
  obtain ⟨snapshot, hok⟩ : ∃ snapshot, (collect p geometryRule 7).2 = .ok snapshot := ⟨_, rfl⟩
  have hminor : Session.NumbersBy (some p.minor) fun _ => 110 := fun _ _ => rfl
  have hlines : (gather q 7).2 = (gather p 7).2.keep σ := by
    rw [listings_gather_ofFindings, listings_gather_ofFindings]
    rfl
  obtain ⟨part, hpart, -, hdisks⟩ := (collect_keep hminor hok).2 σ q hlines fun _ _ => rfl
  exact ⟨snapshot, part, hok, hpart, hdisks⟩

end StorageInventory
