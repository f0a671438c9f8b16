import Mathlib.Tactic
import StorageInventory.Linux.Collector
import StorageInventory.Proofs.Linux.MountEntries
import StorageInventory.Proofs.Store.Edits

/-!
# Which UUID a store gets

The map of UUIDs goes by canonical paths, as they are, and a store has its volume as it is, but its
UUID is looked up under the volume as the row writes it.  These are the same exactly where the row
writes no escaped space, and only there does every map give the store the UUID of its volume.

* `unescape_eq_self_iff` — which volumes are written as they are,
* `get?_uuidsOf` — what the map of a directory has for a path,
* `readMounts_uuids` — what the stores of a listing get.
-/

namespace StorageInventory.Linux

open Table Text

/-! ## Rows and their volumes -/

/-- A volume is written as it is exactly if there is no escaped space in it. -/
theorem unescape_eq_self_iff {field : Text} :
    unescape field = field ↔ includes escapedSpace field = false :=
  replaceAll_eq_self_iff (by decide)

/-- The volumes and the UUIDs of the stores of a table that is read. -/
theorem map_readMounts {uuids : Table Text} {spaceOf : SpaceOf} {rows : List Text}
    {stores : List FileStore} (h : readMounts uuids spaceOf rows = .ok stores) :
    stores.map (fun s => (s.volume, s.uuid)) =
      (rows.filter isShown).map fun row =>
        (unescape (writtenVolume row), (uuids.get? (writtenVolume row)).getD []) := by
  rw [readMounts_eq, mapM_eq_ok_iff] at h
  generalize rows.filter isShown = shown at h ⊢
  induction h with
  | nil => rfl
  | cons hrow _ ih =>
    obtain ⟨space, -, rfl⟩ := map_eq_ok_iff.1 hrow
    rw [List.map_cons, List.map_cons, ih]
    rfl

/-! ## The map of a directory -/

/-- For a path the map has the last of the names whose device it is. -/
theorem get?_uuidsOf (realPath : Text → Text) (directory : Text) (names : List Text) (path : Text) :
    (uuidsOf realPath directory names).get? path =
      (names.filter fun name => realPath (Host.Path.join directory name) = path).getLast?.map
        lower := by
  rw [uuidsOf, get?_foldl_put, get?_nil, Option.or_none]

/-! ## Stores -/

/-- The stores of a table that is read get what the map has for their volumes as they are written.
That is the UUID of the volume, for every map, exactly if no volume is written with an escaped
space; with the map of a directory, it is the UUID of the device whose canonical path is what the
row writes.  Whether the table is read does not depend on the map. -/
theorem readMounts_uuids (spaceOf : SpaceOf) (rows : List Text) :
    (∀ uuids stores, readMounts uuids spaceOf rows = .ok stores →
      stores.map (fun s => (s.volume, s.uuid)) =
        (rows.filter isShown).map fun row =>
          (unescape (writtenVolume row), (uuids.get? (writtenVolume row)).getD [])) ∧
    (∀ uuids, (∃ stores, readMounts uuids spaceOf rows = .ok stores) →
      ((∀ uuids stores, readMounts uuids spaceOf rows = .ok stores →
          ∀ s ∈ stores, s.uuid = (uuids.get? s.volume).getD []) ↔
        ∀ row ∈ rows.filter isShown, includes escapedSpace (writtenVolume row) = false)) ∧
    (∀ realPath directory names stores,
      readMounts (uuidsOf realPath directory names) spaceOf rows = .ok stores →
        stores.map FileStore.uuid =
          (rows.filter isShown).map fun row =>
            ((names.filter fun name =>
              realPath (Host.Path.join directory name) = writtenVolume row).getLast?.map lower).getD
                []) ∧
    ∀ uuids others, (∃ stores, readMounts uuids spaceOf rows = .ok stores) →
      ∃ stores, readMounts others spaceOf rows = .ok stores := by
  refine ⟨fun uuids stores hread => map_readMounts hread, fun known hreads => ⟨fun h row hrow => ?_,
    fun h uuids stores hread s hs => ?_⟩, fun realPath directory names stores hread => ?_,
    fun uuids others hreads => exists_readMounts_iff.2 (exists_readMounts_iff.1 hreads)⟩
  · -- a map with nothing but the volume tells the volume from what is written
    let uuids : Table Text := [(unescape (writtenVolume row), ['u'])]
    obtain ⟨stores, hread⟩ : ∃ stores, readMounts uuids spaceOf rows = .ok stores :=
      exists_readMounts_iff.2 (exists_readMounts_iff.1 hreads)
    have hmem := List.mem_map_of_mem (f := fun row =>
      (unescape (writtenVolume row), (uuids.get? (writtenVolume row)).getD [])) hrow
    rw [← map_readMounts hread] at hmem
    obtain ⟨s, hs, heq⟩ := List.mem_map.1 hmem
    obtain ⟨hvolume, huuid⟩ := Prod.mk.inj heq
    have hget := huuid.symm.trans (h uuids stores hread s hs)
    rw [hvolume] at hget
    by_contra hspace
    have hne : unescape (writtenVolume row) ≠ writtenVolume row := mt unescape_eq_self_iff.1 hspace
    simp [uuids, Table.get?, hne] at hget
  · have hmem := List.mem_map_of_mem (f := fun s : FileStore => (s.volume, s.uuid)) hs
    rw [map_readMounts hread] at hmem
    obtain ⟨row, hrow, heq⟩ := List.mem_map.1 hmem
    obtain ⟨hvolume, huuid⟩ := Prod.mk.inj heq
    rw [← huuid, ← hvolume, unescape_eq_self_iff.2 (h row hrow)]
  · have hmap := congrArg (List.map Prod.snd) (map_readMounts hread)
    simp only [List.map_map, Function.comp_def, get?_uuidsOf] at hmap
    exact hmap

/-- A device with a space in its path is not found under the path that the row writes. -/
theorem readMounts_uuids_space :
    let row := "/dev/my\\040disk /mnt ext4 rw 0 0".toList
    let uuids : Table Text := [("/dev/my disk".toList, "0b3c-11aa".toList)]
    let spaceOf : SpaceOf := fun _ => .ok (600, 1000)
    ∃ s, readMounts uuids spaceOf [row] = .ok [s] ∧ s.volume = "/dev/my disk".toList ∧
      s.uuid = [] ∧ (uuids.get? s.volume).getD [] = "0b3c-11aa".toList ∧
      ¬ ∀ uuids stores, readMounts uuids spaceOf [row] = .ok stores →
        ∀ s ∈ stores, s.uuid = (uuids.get? s.volume).getD [] := by
  intro row uuids spaceOf
  obtain ⟨hstores, hiff, -, -⟩ := readMounts_uuids spaceOf [row]
  have hshown : [row].filter isShown = [row] := by decide
  obtain ⟨stores, hread⟩ : ∃ stores, readMounts uuids spaceOf [row] = .ok stores :=
    exists_readMounts_iff.2 fun _ _ => rfl
  have hrow : ([row].filter isShown).map (fun row =>
      (unescape (writtenVolume row), (uuids.get? (writtenVolume row)).getD [])) =
      [("/dev/my disk".toList, [])] := by decide
  obtain ⟨s, rest, rfl, heq, hrest⟩ :=
    List.map_eq_cons_iff.1 ((hstores uuids stores hread).trans hrow)
  obtain rfl := List.map_eq_nil_iff.1 hrest
  obtain ⟨hvolume, huuid⟩ := Prod.mk.inj heq
  refine ⟨s, hread, hvolume, huuid, by rw [hvolume]; decide, fun hall => ?_⟩
  have hplain := (hiff uuids ⟨[s], hread⟩).1 hall row
    (by rw [hshown]; exact List.mem_singleton_self row)
  exact absurd hplain (by decide)

end StorageInventory.Linux
