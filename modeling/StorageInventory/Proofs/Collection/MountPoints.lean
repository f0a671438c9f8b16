import Mathlib.Tactic
import StorageInventory.Proofs.Collection.Contents
import StorageInventory.Proofs.Pass.MountPaths

/-!
# Mount points in a snapshot

A partition is mounted where the mount table says when the partition is found, and nothing changes
that afterwards: neither the lines that describe it, nor its minor number, nor merging.

* `mountPoint_of_collect` — every partition of a snapshot is mounted where its last row says,
* `collect_mountPoint` — so a path with blanks is not shown as it is.
-/

namespace StorageInventory

open Name Pass Table Text

/-! ## From the mount table to the snapshot -/

/-- The partitions of a block are mounted where the mount points say. -/
theorem mountPoint_of_mem_partitions {rule : NamingRule} {mounts : Table Text} {b : Block}
    {q : Partition} (h : q ∈ b.partitions rule mounts) :
    q.mountPoint = (mounts.get? q.name).getD [] := by
  obtain ⟨⟨header, lines⟩, -, hdescribe⟩ := List.mem_filterMap.1 h
  obtain ⟨name, -, rfl⟩ := Option.map_eq_some_iff.1 hdescribe
  rfl

/-- So are those of its batch, whatever their minor numbers are. -/
theorem mountPoint_of_mem_batch {rule : NamingRule} {lookup : Option (Text → Answer)}
    {mounts : Table Text} {b : Block} {batch : Batch} (hbatch : b.IsBatch rule lookup mounts batch)
    {q : Partition} (h : q ∈ batch.2) : q.mountPoint = (mounts.get? q.name).getD [] := by
  have hmem := List.mem_map_of_mem (f := fun p : Partition => { p with minorNumber := 0 }) h
  rw [hbatch.same] at hmem
  obtain ⟨r, hr, heq⟩ := List.mem_map.1 hmem
  obtain ⟨-, hname, -, -, -, hmount, -⟩ := Partition.mk.inj heq
  rw [← hmount, ← hname]
  exact mountPoint_of_mem_partitions hr

/-- A partition that a device gains has the mount point of its name, or none. -/
theorem mountPoint_of_mem_gained {rule : NamingRule} {lookup : Option (Text → Answer)}
    {mounts : Table Text} {blocks : List Block} {batches : List Batch}
    (hbatches : List.Forall₂ (Block.IsBatch rule lookup mounts) blocks batches) {device : Text}
    {q : Partition} (h : q ∈ gained device batches) :
    q.mountPoint = (mounts.get? q.name).getD [] := by
  induction hbatches with
  | nil => simp [gained] at h
  | cons hb _ ih =>
    rw [gained_cons, List.mem_append] at h
    rcases h with h | h
    · split_ifs at h
      · exact mountPoint_of_mem_batch hb h
      · simp at h
    · exact ih h

variable {p : Provider} {rule : NamingRule} {timestamp : Int} {snapshot : Snapshot}

/-- Every partition of a snapshot is mounted where the mount table says. -/
theorem mountPoint_of_collect (hok : (collect p rule timestamp).2 = .ok snapshot) {disk : Disk}
    (hdisk : disk ∈ snapshot.disks) {q : Partition} (hq : q ∈ disk.partitions) :
    q.mountPoint = ((mountsOf (gather p timestamp).2.mounts).get? q.name).getD [] := by
  have hs := gather_sameStore p timestamp
  rw [collect_eq] at hok
  generalize gather p timestamp = gathered at hs hok ⊢
  obtain ⟨s, l⟩ := gathered
  dsimp only at hs hok ⊢
  obtain ⟨hfault, hsnapshot⟩ := present_eq_ok_iff.1 hok
  obtain ⟨batches, hbatches, hreads⟩ := partitionPass_reads p hs hfault
  have hstored := hreads.stored (l.stored_session timestamp)
  obtain ⟨-, harranged, hperm⟩ :=
    snapshot_ok hstored (hreads.tidy (l.tidy_session timestamp)) hsnapshot
  -- the partitions are the last ones of their names among those that the device gained
  obtain ⟨result, hsettles, hrecord⟩ := hreads.exists_settles (l.tidy_session timestamp) disk.name
  have hshown := (Snapshot.diskNamed_of_mem harranged.nodup hdisk).symm.trans
    (diskNamed_eq_diskOf hstored hperm disk.name)
  have hresult : disk.partitions = result := by rw [hshown, hrecord]
  rw [l.partitions_session, List.nil_append] at hsettles
  rw [hresult] at hq
  exact mountPoint_of_mem_gained hbatches (name_of_lastNamed ((hsettles.2 q).1 hq)).1

/-- A row for a partition and a path makes the path its mount point exactly if there is no blank in
the path, and then every snapshot shows it for the partition.  Otherwise the path is cut at its
first blank if that is a space, and the row is passed over if it is not. -/
theorem collect_mountPoint {name path options : Text} (before : List Text) {after : List Text}
    (hname : IsWord name) (hpath : path.head? = some '/') (hbreak : '\n' ∉ path)
    (hoptions : '\n' ∉ options) (hlast : ∀ other ∈ after, ∀ m, ¬ IsMountRow other name m) :
    let rows := before ++ mountRow name path options :: after
    (∀ s, ((readMountTable rows s).mounts.get? name = some path ↔
        ∀ c ∈ path, isBlank c = false) ∧
      (readMountTable rows s).mounts.get? name =
        (readPath path).or ((readMountTable before s).mounts.get? name)) ∧
      ∀ p rule timestamp snapshot, (gather p timestamp).2.mounts = rows →
        (collect p rule timestamp).2 = .ok snapshot →
        ∀ disk ∈ snapshot.disks, ∀ q ∈ disk.partitions, q.name = name →
          (q.mountPoint = path ↔ ∀ c ∈ path, isBlank c = false) ∧
          q.mountPoint = ((readPath path).or ((mountsOf before).get? name)).getD [] := by
  intro rows
  have hget : (mountsOf rows).get? name = (readPath path).or ((mountsOf before).get? name) :=
    get?_mountsOf (readMountRow_mountRow hname hpath hbreak hoptions) hlast
  have hiff : (mountsOf rows).get? name = some path ↔ ∀ c ∈ path, isBlank c = false :=
    get?_mountsOf_eq_path_iff hname hpath hbreak hoptions hlast
  refine ⟨fun s => ?_, fun p rule timestamp snapshot hmounts hok disk hdisk q hq hqname => ?_⟩
  · rw [(readMountTable_sameStore rows s).mounts, (readMountTable_sameStore before s).mounts]
    exact ⟨hiff, hget⟩
  · have hpoint := mountPoint_of_collect hok hdisk hq
    rw [hmounts, hqname] at hpoint
    refine ⟨?_, by rw [hpoint, hget]⟩
    rw [hpoint, ← hiff]
    cases hread : (mountsOf rows).get? name with
    | none =>
      -- the path is not empty
      have hne : [] ≠ path := by
        rintro rfl
        simp at hpath
      simpa using hne
    | some m => simp

/-- Of a path with a space in it the first word is shown. -/
theorem collect_mountPoint_ada0 :
    let row := mountRow "ada0p1".toList "/mnt/my disk".toList "ufs, local".toList
    let findings : Findings :=
      { devices := .ok ["ada0".toList], mounts := .ok (some [row]), counters := .ok none
        diskGeometry := .ok none
        partitionGeometry := .ok (some ["Geom name: ada0".toList, "1. Name: ada0p1".toList])
        minor := fun _ => .ok none }
    IsWord "ada0p1".toList ∧ row = "/dev/ada0p1 on /mnt/my disk (ufs, local)".toList ∧
      ∃ snapshot disk q, (collect (.ofFindings findings) geometryRule 7).2 = .ok snapshot ∧
        disk ∈ snapshot.disks ∧ q ∈ disk.partitions ∧ q.name = "ada0p1".toList ∧
        q.mountPoint = "/mnt/my".toList ∧ q.mountPoint ≠ "/mnt/my disk".toList := by
  intro row findings
  have hname : IsWord "ada0p1".toList := by decide
  obtain ⟨snapshot, disk, q, hok, hdisk, hq, hqname⟩ : ∃ snapshot disk q,
      (collect (.ofFindings findings) geometryRule 7).2 = .ok snapshot ∧ disk ∈ snapshot.disks ∧
        q ∈ disk.partitions ∧ q.name = "ada0p1".toList :=
    ⟨_, _, _, rfl, List.mem_singleton_self _, List.mem_singleton_self _, rfl⟩
  have hmounts : (gather (.ofFindings findings) 7).2.mounts = [] ++ row :: [] := by
    rw [listings_gather_ofFindings]
    rfl
  have hpath : "/mnt/my disk".toList.head? = some '/' := rfl
  have hbreak : '\n' ∉ "/mnt/my disk".toList := by decide
  have hoptions : '\n' ∉ "ufs, local".toList := by decide
  have hlast : ∀ other ∈ ([] : List Text), ∀ m, ¬ IsMountRow other "ada0p1".toList m := by simp
  obtain ⟨-, hshown⟩ := collect_mountPoint [] hname hpath hbreak hoptions hlast
  obtain ⟨hiff, hpoint⟩ := hshown _ _ _ _ hmounts hok disk hdisk q hq hqname
  refine ⟨hname, by decide, snapshot, disk, q, hok, hdisk, hq, hqname, hpoint.trans (by decide), ?_⟩
  exact fun heq => absurd (hiff.1 heq ' ' (by decide)) (by decide)

end StorageInventory
