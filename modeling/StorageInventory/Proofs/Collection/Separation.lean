import Mathlib.Tactic
import StorageInventory.Proofs.Collection.Contents

/-!
# Devices are kept apart

What the listings say of one device has no influence on the others.  A device's rows are those that
begin with it, and its blocks those whose header ends with it; whatever stands in them, be it
garbage that looks like a header or an attribute of another disk, they can be deleted or replaced
without any other disk being told apart.

* `blocksOf_withoutBlocks` — deleting a device's blocks from a listing deletes them from its blocks,
* `editsOf_withoutRows`, `editsOf_withoutBlocks`, `gained_withoutBlocks` — what the passes do to
  every other device stays as it is,
* `collect_separate` — two collections that differ in a device's lines show the same other disks.
-/

namespace StorageInventory

open Name Pass Text

/-! ## Deleting a device's lines -/

/-- The rows of a counter listing that do not begin with the device. -/
def withoutRows (device : Text) (lines : List Text) : List Text :=
  lines.filter fun line => (tokens line).head? ≠ some device

/-- A geometry listing without the blocks of a device: their headers, and the lines up to the next
header. -/
def withoutBlocks (device : Text) (lines : List Text) : List Text :=
  let (lead, blocks) := sections (isBlockHeader ∘ trim) lines
  lead ++ (blocks.filter fun s => lastToken s.1 ≠ device).flatMap sectionLines

/-- The blocks of a listing, from its lines as they are. -/
theorem blocksOf_eq (lines : List Text) :
    blocksOf lines = (sections (isBlockHeader ∘ trim) lines).2.map fun s =>
      ⟨lastToken s.1, s.2.map trim⟩ := by
  rw [blocksOf, sections_map, List.map_map]
  refine List.map_congr_left fun s _ => ?_
  rw [Function.comp_apply, Block.ofSection, lastToken_trim]

/-- To delete a device's blocks from a listing is to delete them from its blocks. -/
theorem blocksOf_withoutBlocks (device : Text) (lines : List Text) :
    blocksOf (withoutBlocks device lines) = (blocksOf lines).filter (·.device ≠ device) := by
  obtain ⟨hlead, hparts⟩ := isSection_of_mem_sections (isBlockHeader ∘ trim) lines
  have hcut : sections (isBlockHeader ∘ trim) (withoutBlocks device lines) =
      ((sections (isBlockHeader ∘ trim) lines).1,
        (sections (isBlockHeader ∘ trim) lines).2.filter fun s => lastToken s.1 ≠ device) :=
    sections_eq_iff.2 ⟨rfl, hlead, fun s hs => hparts s (List.mem_filter.1 hs).1⟩
  rw [blocksOf_eq, hcut, blocksOf_eq, List.filter_map]
  rfl

/-- Leaving out the blocks of a device leaves the names of the others. -/
theorem names_withoutBlocks_iff {device other : Text} (hne : other ≠ device) (lines : List Text) :
    (∃ line ∈ withoutBlocks device lines, Names line other) ↔ ∃ line ∈ lines, Names line other := by
  rw [← exists_mem_blocksOf_iff, ← exists_mem_blocksOf_iff, blocksOf_withoutBlocks]
  constructor
  · rintro ⟨b, hb, hother⟩
    exact ⟨b, (List.mem_filter.1 hb).1, hother⟩
  · rintro ⟨b, hb, rfl⟩
    exact ⟨b, List.mem_filter.2 ⟨hb, by simpa using hne⟩, rfl⟩

/-- Leaving out the rows of a device leaves those of the others. -/
theorem isCounterRow_withoutRows_iff {device other : Text} (hne : other ≠ device)
    (lines : List Text) :
    (∃ line ∈ withoutRows device lines, IsCounterRow line other) ↔
      ∃ line ∈ lines, IsCounterRow line other := by
  constructor
  · rintro ⟨line, hline, hrow⟩
    exact ⟨line, (List.mem_filter.1 hline).1, hrow⟩
  · rintro ⟨line, hline, hrow⟩
    refine ⟨line, List.mem_filter.2 ⟨hline, ?_⟩, hrow⟩
    rw [hrow.2]
    simpa using hne

/-! ## The facets of another device -/

/-- Edits of other devices can be left out, whatever they come from. -/
theorem editsOf_flatMap_filter {α : Type} {edits : α → List DiskEdit} {keep : α → Bool}
    {other : Text} {xs : List α}
    (h : ∀ x ∈ xs, keep x = false → ∀ e ∈ edits x, e.device ≠ other) :
    editsOf ((xs.filter keep).flatMap edits) other = editsOf (xs.flatMap edits) other := by
  induction xs with
  | nil => rfl
  | cons x xs ih =>
    have ih := ih fun y hy => h y (List.mem_cons_of_mem x hy)
    funext disk
    rw [List.flatMap_cons, editsOf_append]
    by_cases hx : keep x = true
    · rw [List.filter_cons_of_pos hx, List.flatMap_cons, editsOf_append, ih]
    · have hnone : other ∉ (edits x).map DiskEdit.device := by
        intro hmem
        obtain ⟨e, he, hdevice⟩ := List.mem_map.1 hmem
        exact h x List.mem_cons_self (by simpa using hx) e he hdevice
      rw [List.filter_cons_of_neg hx, ih, editsOf_of_not_mem hnone]

/-- Leaving out the rows of a device leaves the counters of the others. -/
theorem editsOf_withoutRows {device other : Text} (hne : other ≠ device) (timestamp : Int)
    (valid : Text → Bool) (lines : List Text) :
    editsOf (counterEdits timestamp valid (withoutRows device lines)) other =
      editsOf (counterEdits timestamp valid lines) other := by
  have hrows : ∀ rows : List Text, counterEdits timestamp valid rows =
      rows.flatMap fun line => (counterEdit timestamp valid line).toList := fun rows =>
    List.filterMap_eq_flatMap_toList _ _
  rw [hrows, hrows, withoutRows]
  refine editsOf_flatMap_filter fun line _ hdrop e he => ?_
  -- a row that is left out is about the device itself
  have hhead : (tokens line).head? = some device := by simpa using hdrop
  rw [Option.mem_toList, counterEdit] at he
  obtain ⟨⟨first, rest⟩, haccept, rfl⟩ := Option.map_eq_some_iff.1 he
  rw [(acceptCounterRow_eq_some.1 haccept).1, List.head?_cons, Option.some.injEq] at hhead
  exact fun hother => hne (hother.symm.trans hhead)

/-- Leaving out the blocks of a device leaves the geometry of the others. -/
theorem editsOf_withoutBlocks {device other : Text} (hne : other ≠ device) (valid : Text → Bool)
    (lines : List Text) :
    editsOf (geometryEdits valid (withoutBlocks device lines)) other =
      editsOf (geometryEdits valid lines) other := by
  rw [geometryEdits, geometryEdits, blocksOf_withoutBlocks, kept, List.filter_comm]
  refine editsOf_flatMap_filter fun b _ hdrop e he => ?_
  have hdevice : b.device = device := by simpa using hdrop
  rw [(device_of_mem_edits he).1, hdevice]
  exact hne.symm

/-- Leaving out the blocks of a device leaves the partitions of the others. -/
theorem gained_withoutBlocks {device other : Text} (hne : other ≠ device) (rule : NamingRule)
    (mounts : Table Text) (minor : Text → Int) (valid : Text → Bool) (lines : List Text) :
    gained other ((kept valid (blocksOf (withoutBlocks device lines))).map
        (Block.batch rule mounts minor)) =
      gained other ((kept valid (blocksOf lines)).map (Block.batch rule mounts minor)) := by
  have hbatches : (kept valid (blocksOf (withoutBlocks device lines))).map
      (Block.batch rule mounts minor) =
      ((kept valid (blocksOf lines)).map (Block.batch rule mounts minor)).filter
        fun batch => batch.1 ≠ device := by
    rw [blocksOf_withoutBlocks, kept, List.filter_comm, List.filter_map]
    rfl
  rw [hbatches, gained, List.filter_filter, gained]
  congr 1
  refine List.filter_congr fun batch _ => ?_
  by_cases h : batch.1 = other <;> simp [h, hne]

/-! ## Listings that differ in one device -/

/-- The listings differ in the rows and the blocks of one device at most. -/
structure Listings.SameBut (device : Text) (l l' : Listings) : Prop where
  scope : l.isValid = l'.isValid
  mounts : l.mounts = l'.mounts
  counters : withoutRows device l.counters = withoutRows device l'.counters
  diskGeometry : withoutBlocks device l.diskGeometry = withoutBlocks device l'.diskGeometry
  partitionGeometry :
    withoutBlocks device l.partitionGeometry = withoutBlocks device l'.partitionGeometry

namespace Listings.SameBut

variable {device other : Text} {l l' : Listings}

/-- The other devices have the same throughput. -/
theorem throughput (h : l.SameBut device l') (hne : other ≠ device) (timestamp : Int) :
    l.throughput timestamp other = l'.throughput timestamp other := by
  rw [Listings.throughput, Listings.throughput, ← editsOf_withoutRows hne, h.scope, h.counters,
    editsOf_withoutRows hne]

/-- The other devices have the same geometry. -/
theorem geometry (h : l.SameBut device l') (hne : other ≠ device) :
    l.geometry other = l'.geometry other := by
  rw [Listings.geometry, Listings.geometry, ← editsOf_withoutBlocks hne, h.scope, h.diskGeometry,
    editsOf_withoutBlocks hne]

/-- The other devices gain the same partitions. -/
theorem gained (h : l.SameBut device l') (hne : other ≠ device) (rule : NamingRule)
    (minor : Text → Int) : l.gained rule minor other = l'.gained rule minor other := by
  rw [Listings.gained, Listings.gained, ← gained_withoutBlocks hne, h.scope, h.mounts,
    h.partitionGeometry, gained_withoutBlocks hne]

/-- The other devices are registered alike. -/
theorem registered_iff (h : l.SameBut device l') (hne : other ≠ device) :
    l.Registered other ↔ l'.Registered other := by
  rw [Listings.Registered, Listings.Registered, h.scope,
    ← isCounterRow_withoutRows_iff hne l.counters, ← names_withoutBlocks_iff hne l.diskGeometry,
    ← names_withoutBlocks_iff hne l.partitionGeometry, h.counters, h.diskGeometry,
    h.partitionGeometry, isCounterRow_withoutRows_iff hne, names_withoutBlocks_iff hne,
    names_withoutBlocks_iff hne]

end Listings.SameBut

/-! ## Two collections -/

variable {rule : NamingRule} {minor : Text → Int} {timestamp : Int} {device : Text}

/-- A disk of one snapshot is a disk of the other, if it is not the device that they differ in. -/
theorem mem_disks_of_sameBut {l l' : Listings} {snapshot snapshot' : Snapshot}
    (h : l.SameBut device l') (hs : l.Holds rule minor timestamp snapshot)
    (hs' : l'.Holds rule minor timestamp snapshot') {disk : Disk} (hne : disk.name ≠ device)
    (hdisk : disk ∈ snapshot.disks) : disk ∈ snapshot'.disks := by
  have hregistered := (hs.disk_iff disk.name).1 (List.mem_map_of_mem hdisk)
  have hname := (hs'.disk_iff disk.name).2 ((h.registered_iff hne).1 hregistered)
  obtain ⟨disk', hdisk', hsame⟩ := List.mem_map.1 hname
  obtain ⟨partitions, hsettles, heq⟩ := hs.diskNamed disk.name
  obtain ⟨partitions', hsettles', heq'⟩ := hs'.diskNamed disk.name
  -- both are made of the same facets
  rw [h.gained hne] at hsettles
  rw [h.throughput hne, h.geometry hne, hsettles.unique hsettles', ← heq', ← hsame,
    Snapshot.diskNamed_of_mem hs'.arranged.nodup hdisk', hsame,
    Snapshot.diskNamed_of_mem hs.arranged.nodup hdisk] at heq
  exact heq ▸ hdisk'

theorem Listings.SameBut.symm {l l' : Listings} (h : l.SameBut device l') :
    l'.SameBut device l :=
  ⟨h.scope.symm, h.mounts.symm, h.counters.symm, h.diskGeometry.symm, h.partitionGeometry.symm⟩

/-- Two collections whose listings differ in the lines of one device at most show the same other
disks.  If that device is not in scope, they show the same disks altogether, and not that one. -/
theorem collect_separate {p q : Provider} (hp : Session.NumbersBy (some p.minor) minor)
    (hq : Session.NumbersBy (some q.minor) minor)
    (hsame : (gather p timestamp).2.SameBut device (gather q timestamp).2)
    {snapshot snapshot' : Snapshot} (hok : (collect p rule timestamp).2 = .ok snapshot)
    (hok' : (collect q rule timestamp).2 = .ok snapshot') :
    (∀ disk : Disk, disk.name ≠ device → (disk ∈ snapshot.disks ↔ disk ∈ snapshot'.disks)) ∧
      ((gather p timestamp).2.isValid device = false →
        snapshot.disks = snapshot'.disks ∧ device ∉ snapshot.disks.map Disk.name) := by
  have hs := collect_holds hp hok
  have hs' := collect_holds hq hok'
  have hothers : ∀ disk : Disk, disk.name ≠ device →
      (disk ∈ snapshot.disks ↔ disk ∈ snapshot'.disks) := fun disk hne =>
    ⟨mem_disks_of_sameBut hsame hs hs' hne, mem_disks_of_sameBut hsame.symm hs' hs hne⟩
  refine ⟨hothers, fun hscope => ?_⟩
  have hscope' : (gather q timestamp).2.isValid device = false := hsame.scope ▸ hscope
  -- a device out of scope is not registered
  have hnot : device ∉ snapshot.disks.map Disk.name := fun hmem =>
    absurd ((hs.disk_iff device).1 hmem).1 (by simp [hscope])
  have hnot' : device ∉ snapshot'.disks.map Disk.name := fun hmem =>
    absurd ((hs'.disk_iff device).1 hmem).1 (by simp [hscope'])
  have hperm : snapshot.disks.Perm snapshot'.disks := by
    rw [List.perm_ext_iff_of_nodup (hs.arranged.nodup.of_map _) (hs'.arranged.nodup.of_map _)]
    intro disk
    by_cases hdevice : disk.name = device
    · exact iff_of_false (fun h => hnot (List.mem_map.2 ⟨disk, h, hdevice⟩))
        fun h => hnot' (List.mem_map.2 ⟨disk, h, hdevice⟩)
    · exact hothers disk hdevice
  exact ⟨hs.arranged.eq_of_perm hs'.arranged hperm, hnot⟩

/-- Lines of a second device that mention the first one as well.  Where both devices are in scope,
the first disk is the same with these lines and without them; where the second one is out of scope,
they make no difference at all. -/
theorem collect_separate_ada1 :
    let findings (devices : List Text) : Findings :=
      { devices := .ok devices, mounts := .ok none
        counters := .ok ["ada0 1 2 3 4 0 0 5".toList]
        diskGeometry := .ok ["Geom name: ada0".toList, "   descr: disk".toList]
        partitionGeometry := .ok ["Geom name: ada0".toList, "1. Name: ada0p1".toList]
        minor := fun _ => .ok (some ["110".toList]) }
    let p (devices : List Text) := Provider.ofFindings (findings devices)
    let q (devices : List Text) := Provider.ofFindings
      { findings devices with
        counters := .ok ["ada0 1 2 3 4 0 0 5".toList, "ada1 ada0 9 9 9 9 9 9".toList]
        diskGeometry := .ok
          ["Geom name: ada0 ada1".toList, "   descr: other".toList, "1. Name: ada0".toList,
            "Geom name: ada0".toList, "   descr: disk".toList]
        partitionGeometry := .ok
          ["Geom name: ada0".toList, "1. Name: ada0p1".toList, "Geom name: ada1".toList,
            "1. Name: ada1p1".toList, "   Mediasize: 512 (512B)".toList] }
    let one := ["ada0".toList]
    let both := ["ada0".toList, "ada1".toList]
    (∃ snapshot snapshot', (collect (p both) geometryRule 7).2 = .ok snapshot ∧
      (collect (q both) geometryRule 7).2 = .ok snapshot' ∧
      ∀ disk : Disk, disk.name ≠ "ada1".toList →
        (disk ∈ snapshot.disks ↔ disk ∈ snapshot'.disks)) ∧
    ∃ snapshot snapshot', (collect (p one) geometryRule 7).2 = .ok snapshot ∧
      (collect (q one) geometryRule 7).2 = .ok snapshot' ∧
      snapshot.disks = snapshot'.disks ∧ "ada1".toList ∉ snapshot.disks.map Disk.name := by
  intro findings p q one both
  have hp : ∀ devices, Session.NumbersBy (some (p devices).minor) fun _ => 110 :=
    fun _ _ _ => rfl
  have hq : ∀ devices, Session.NumbersBy (some (q devices).minor) fun _ => 110 :=
    fun _ _ _ => rfl
  have hsame : ∀ devices,
      (gather (p devices) 7).2.SameBut "ada1".toList (gather (q devices) 7).2 := fun devices => by
    rw [listings_gather_ofFindings, listings_gather_ofFindings]
    exact ⟨rfl, rfl, rfl, rfl, rfl⟩
  constructor
  · obtain ⟨snapshot, hok⟩ : ∃ s, (collect (p both) geometryRule 7).2 = .ok s :=
      isOk_iff.1 (by decide +kernel)
    obtain ⟨snapshot', hok'⟩ : ∃ s, (collect (q both) geometryRule 7).2 = .ok s :=
      isOk_iff.1 (by decide +kernel)
    exact ⟨snapshot, snapshot', hok, hok',
      (collect_separate (hp both) (hq both) (hsame both) hok hok').1⟩
  · obtain ⟨snapshot, hok⟩ : ∃ s, (collect (p one) geometryRule 7).2 = .ok s :=
      isOk_iff.1 (by decide +kernel)
    obtain ⟨snapshot', hok'⟩ : ∃ s, (collect (q one) geometryRule 7).2 = .ok s :=
      isOk_iff.1 (by decide +kernel)
    have hscope : (gather (p one) 7).2.isValid "ada1".toList = false := rfl
    exact ⟨snapshot, snapshot', hok, hok',
      (collect_separate (hp one) (hq one) (hsame one) hok hok').2 hscope⟩

end StorageInventory
