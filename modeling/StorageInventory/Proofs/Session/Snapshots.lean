import Mathlib.Tactic
import StorageInventory.Collection
import StorageInventory.Proofs.Store.Merging

/-!
# Snapshots

A snapshot puts the disks of a session in natural order, and the partitions of each disk.  It shows
what the disks are, and not in which order they became known.

* `snapshot_snd` — what a snapshot comes to, without the session that it leaves,
* `snapshot_eq` — where partitions have settled, only the disks have to be sorted,
* `snapshot_isOk_iff`, `snapshot_ok` — so it takes sortable disks, and holds them in order,
* `snapshot_congr` — sessions with the same disks, counts and moment have the same snapshot.
-/

namespace StorageInventory

open Name

/-- The disk with its partitions in natural order. -/
def sortDisk (disk : Disk) : Except Fault Disk :=
  (sortByName Partition.name disk.partitions).map fun partitions => { disk with partitions }

/-- A disk whose partitions are arranged is sorted already. -/
theorem sortDisk_of_arranged {disk : Disk} (h : Arranged Partition.name disk.partitions) :
    sortDisk disk = .ok disk := by
  rw [sortDisk, sortByName_of_arranged h]
  rfl

/-- Putting partitions in order depends on the disks alone, and touches neither counts nor the
moment of the session. -/
theorem sortPartitions_eq (disks : List Disk) (s : Session) :
    (s.sortPartitions disks).2 = disks.mapM sortDisk ∧
      (s.sortPartitions disks).1.timestamp = s.timestamp ∧
      (s.sortPartitions disks).1.diagnostics = s.diagnostics := by
  induction disks generalizing s with
  | nil => exact ⟨rfl, rfl, rfl⟩
  | cons disk disks ih =>
    rw [Session.sortPartitions, List.mapM_cons, sortDisk]
    cases hsort : sortByName Partition.name disk.partitions with
    | error fault => exact ⟨rfl, rfl, rfl⟩
    | ok sorted =>
      obtain ⟨hresult, htime, hcounts⟩ := ih (s.putDisk { disk with partitions := sorted })
      dsimp only
      rw [← Prod.mk.eta (p := Session.sortPartitions disks _)]
      cases hrest : disks.mapM sortDisk with
      | error fault =>
        rw [hresult, hrest]
        exact ⟨rfl, htime, hcounts⟩
      | ok rest =>
        rw [hresult, hrest]
        exact ⟨rfl, htime, hcounts⟩

/-- What a snapshot comes to. -/
theorem snapshot_snd (s : Session) :
    s.snapshot.2 =
      (sortByName Disk.name s.disks.values).bind fun sorted =>
        (sorted.mapM sortDisk).map fun disks =>
          { disks, timestamp := s.timestamp, diagnostics := s.diagnostics.report } := by
  rw [Session.snapshot]
  cases hsort : sortByName Disk.name s.disks.values with
  | error fault => rfl
  | ok sorted =>
    obtain ⟨hresult, htime, hcounts⟩ := sortPartitions_eq sorted s
    dsimp only [Except.bind]
    rw [← Prod.mk.eta (p := s.sortPartitions sorted), hresult]
    cases hrest : sorted.mapM sortDisk with
    | error fault => rfl
    | ok disks =>
      dsimp only
      rw [htime, hcounts]
      rfl

/-- The disks of a session whose partitions have settled are put in order as they are. -/
theorem snapshot_eq {s : Session} (hs : Stored s.disks) (ht : Tidy s.disks) :
    s.snapshot.2 =
      (sortByName Disk.name s.disks.values).map fun disks =>
        { disks, timestamp := s.timestamp, diagnostics := s.diagnostics.report } := by
  rw [snapshot_snd]
  cases hsort : sortByName Disk.name s.disks.values with
  | error fault => rfl
  | ok sorted =>
    have hsettled : ∀ disk ∈ sorted, sortDisk disk = .ok (id disk) := fun disk hdisk =>
      sortDisk_of_arranged (ht.arranged hs.nodup ((perm_of_sortByName hsort).mem_iff.1 hdisk))
    dsimp only [Except.bind]
    rw [mapM_eq_ok hsettled, List.map_id]

/-- Such a session has a snapshot exactly if its disks can be put in order. -/
theorem snapshot_isOk_iff {s : Session} (hs : Stored s.disks) (ht : Tidy s.disks) :
    (∃ snapshot, s.snapshot.2 = .ok snapshot) ↔ ∀ disk ∈ s.disks.values, Sortable disk.name := by
  rw [snapshot_eq hs ht, exists_map_eq_ok_iff, sortByName_isOk_iff]

/-- The snapshot of such a session holds its disks, in natural order. -/
theorem snapshot_ok {s : Session} (hs : Stored s.disks) (ht : Tidy s.disks) {snapshot : Snapshot}
    (hok : s.snapshot.2 = .ok snapshot) :
    snapshot.timestamp = s.timestamp ∧ Arranged Disk.name snapshot.disks ∧
      snapshot.disks.Perm s.disks.values := by
  rw [snapshot_eq hs ht, map_eq_ok_iff] at hok
  obtain ⟨disks, hsort, rfl⟩ := hok
  have hnd : (s.disks.values.map Disk.name).Nodup := hs.map_name_values ▸ hs.nodup
  exact ⟨rfl, arranged_of_sortByName hnd hsort, perm_of_sortByName hsort⟩

/-- Stored records that a table answers alike are the same records. -/
theorem perm_values_of_get? {a b : Table Disk} (ha : Stored a) (hb : Stored b)
    (h : ∀ name, a.get? name = b.get? name) : a.values.Perm b.values := by
  have hkeys : a.keys.Perm b.keys := by
    rw [List.perm_ext_iff_of_nodup ha.nodup hb.nodup]
    intro name
    rw [← not_iff_not, ← Table.get?_eq_none_iff, ← Table.get?_eq_none_iff, h]
  have hdisk : diskOf a = diskOf b := by
    funext name
    rw [diskOf, h, diskOf]
  rw [ha.values_eq, hb.values_eq, hdisk]
  exact hkeys.map _

/-- Sessions with the same disks, the same counts and one moment have the same snapshot, in whatever
order their disks became known. -/
theorem snapshot_congr {s t : Session} (hs : Stored s.disks) (ht : Stored t.disks)
    (hdisks : ∀ name, s.disks.get? name = t.disks.get? name) (htime : s.timestamp = t.timestamp)
    (hreport : s.diagnostics.report = t.diagnostics.report) (snapshot : Snapshot) :
    s.snapshot.2 = .ok snapshot ↔ t.snapshot.2 = .ok snapshot := by
  have hperm := perm_values_of_get? hs ht hdisks
  have hsort : ∀ sorted, sortByName Disk.name s.disks.values = .ok sorted ↔
      sortByName Disk.name t.disks.values = .ok sorted := by
    intro sorted
    rw [sortByName_eq_ok_iff (hs.map_name_values ▸ hs.nodup),
      sortByName_eq_ok_iff (ht.map_name_values ▸ ht.nodup)]
    exact and_congr_left fun _ => ⟨fun h => h.trans hperm, fun h => h.trans hperm.symm⟩
  rw [snapshot_snd, snapshot_snd, bind_eq_ok_iff, bind_eq_ok_iff, htime, hreport]
  exact exists_congr fun sorted => and_congr_left fun _ => hsort sorted

end StorageInventory
