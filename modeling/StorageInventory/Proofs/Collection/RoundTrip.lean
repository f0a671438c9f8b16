import Mathlib.Tactic
import StorageInventory.Proofs.Collection.Boundary
import StorageInventory.Proofs.Collection.Rendering

/-!
# A rendered host is read back

A collection of what the tools of a host show says what the host is: every disk with its counters
and its geometry, every partition with its mount point and its minor number, all in natural order.

* `collect_render` — the round trip, for hosts of which no disk with partitions has a slash in its
  name,
* `not_collect_render_of_slash` — without that condition it fails, since no name with a slash is
  accepted as that of a partition.

All listings are made disk by disk, so what they say about one disk is found by its name
(`filter_flatMap_key`).
-/

namespace StorageInventory

open Name Pass Text

/-! ## Lists with keys -/

/-- In a list that is made part by part, the elements with the key of one part are that part. -/
theorem filter_flatMap_key {α β : Type} {xs : List α} {key : α → Text}
    (hnd : (xs.map key).Nodup) {part : α → List β} {k : β → Text}
    (hpart : ∀ x ∈ xs, ∀ y ∈ part x, k y = key x) {x : α} (hx : x ∈ xs) :
    (xs.flatMap part).filter (k · = key x) = part x := by
  induction xs with
  | nil => simp at hx
  -- keys are distinct, so only the part of the member itself has its key
  | cons a xs ih =>
    rw [List.map_cons, List.nodup_cons] at hnd
    rw [List.flatMap_cons, List.filter_append]
    have hrest := fun b hb => hpart b (List.mem_cons_of_mem a hb)
    rcases List.mem_cons.1 hx with rfl | hx
    · have hself : (part x).filter (k · = key x) = part x :=
        List.filter_eq_self.2 fun y hy => decide_eq_true (hpart x (by simp) y hy)
      have hnone : key x ∉ (xs.flatMap part).map k := by
        intro hmem
        obtain ⟨y, hy, hkey⟩ := List.mem_map.1 hmem
        obtain ⟨b, hb, hy⟩ := List.mem_flatMap.1 hy
        exact hnd.1 (List.mem_map.2 ⟨b, hb, (hrest b hb y hy).symm.trans hkey⟩)
      rw [hself, filter_key_eq_nil hnone, List.append_nil]
    · have hnone : key x ∉ (part a).map k := by
        intro hmem
        obtain ⟨y, hy, hkey⟩ := List.mem_map.1 hmem
        exact hnd.1 (List.mem_map.2 ⟨x, hx, hkey.symm.trans (hpart a (by simp) y hy)⟩)
      rw [filter_key_eq_nil hnone, List.nil_append, ih hnd.2 hrest hx]

/-- Among images with different keys, each is found by its key. -/
theorem filter_map_key {α β : Type} {xs : List α} {key : α → Text} (hnd : (xs.map key).Nodup)
    {f : α → β} {k : β → Text} (hf : ∀ x ∈ xs, k (f x) = key x) {x : α} (hx : x ∈ xs) :
    (xs.map f).filter (k · = key x) = [f x] := by
  rw [List.map_eq_flatMap]
  exact filter_flatMap_key hnd (by simpa using hf) hx

namespace HostDescription

variable {h : HostDescription}

/-! ## Blocks -/

/-- The blocks of a listing that shows the disks one after the other. -/
theorem blocksOf_flatMap (hwf : h.WellFormed) {body : DiskDescription → List Text}
    (hbody : ∀ d ∈ h.disks, ∀ line ∈ body d, isBlockHeader (trim line) = false) :
    blocksOf (h.disks.flatMap fun d => headerLine d.name :: body d) =
      h.disks.map fun d => ⟨d.name, (body d).map trim⟩ := by
  have hword : ∀ d ∈ h.disks, IsWord d.name := fun d hd => (hwf.disk d hd).word
  have hparts : ∀ s ∈ h.disks.map fun d => (trim (headerLine d.name), (body d).map trim),
      IsSection isBlockHeader s := by
    intro s hs
    obtain ⟨d, hd, rfl⟩ := List.mem_map.1 hs
    refine ⟨isBlockHeader_headerLine (hword d hd), ?_⟩
    intro line hline
    obtain ⟨raw, hraw, rfl⟩ := List.mem_map.1 hline
    exact hbody d hd raw hraw
  have hlines : (h.disks.flatMap fun d => headerLine d.name :: body d).map trim =
      (h.disks.map fun d => (trim (headerLine d.name), (body d).map trim)).flatMap
        sectionLines := by
    rw [List.map_flatMap, List.flatMap_map]
    rfl
  rw [blocksOf, hlines, sections_flatMap hparts, List.map_map]
  apply List.map_congr_left
  intro d hd
  rw [Function.comp_apply, Block.ofSection, lastToken_trim, lastToken_headerLine (hword d hd)]

/-- The blocks of the disk geometry are those of the disks. -/
theorem blocksOf_diskGeometry (hwf : h.WellFormed) :
    blocksOf h.render.listings.diskGeometry =
      h.disks.map fun d => ⟨d.name, d.attributeLines.map trim⟩ :=
  blocksOf_flatMap hwf fun _ _ => DiskDescription.isBlockHeader_attributeLines

/-- The lines of partitions open no blocks. -/
theorem isBlockHeader_partitionLines (hwf : h.WellFormed) :
    ∀ d ∈ h.disks, ∀ line ∈ d.partitionLines, isBlockHeader (trim line) = false := by
  intro d hd line hline
  obtain ⟨p, hp, hline⟩ := List.mem_flatMap.1 hline
  have hpartition := (hwf.disk d hd).partitions p hp
  rcases List.mem_cons.1 hline with rfl | hline
  · exact PartitionDescription.isBlockHeader_nameLine (hpartition.isWord (hwf.disk d hd).word)
  · exact (PartitionDescription.not_opening_attributeLines hpartition line hline).1

/-- The blocks of the partition geometry are those of the disks. -/
theorem blocksOf_partitionGeometry (hwf : h.WellFormed) :
    blocksOf h.render.listings.partitionGeometry =
      h.disks.map fun d => ⟨d.name, d.partitionLines.map trim⟩ :=
  blocksOf_flatMap hwf (isBlockHeader_partitionLines hwf)

/-- All disks of a host are in scope. -/
theorem isValid_render (h : HostDescription) {d : DiskDescription} (hd : d ∈ h.disks) :
    h.render.listings.isValid d.name = true :=
  List.elem_eq_true_of_mem (List.mem_map_of_mem hd)

/-- All blocks are in scope. -/
theorem kept_blocks (h : HostDescription) (body : DiskDescription → List Text) :
    kept h.render.listings.isValid (h.disks.map fun d => ⟨d.name, body d⟩) =
      h.disks.map fun d => ⟨d.name, body d⟩ := by
  rw [kept, List.filter_eq_self]
  intro b hb
  obtain ⟨d, hd, rfl⟩ := List.mem_map.1 hb
  exact h.isValid_render hd

/-! ## Disks -/

/-- What the listings say about the disks, but for their partitions. -/
theorem edits_render (hwf : h.WellFormed) (timestamp : Int) :
    h.render.listings.edits timestamp =
      h.disks.map (DiskDescription.counters timestamp) ++
        h.disks.flatMap fun d => registration d.name :: d.geometry := by
  have hcounters : counterEdits timestamp h.render.listings.isValid
      (h.disks.map DiskDescription.counterLine) =
        h.disks.map (DiskDescription.counters timestamp) := by
    rw [counterEdits, List.filterMap_map, ← List.filterMap_eq_map]
    apply List.filterMap_congr
    intro d hd
    exact DiskDescription.counterEdit_counterLine (hwf.disk d hd) timestamp (h.isValid_render hd)
  have hgeometry : geometryEdits h.render.listings.isValid h.render.listings.diskGeometry =
      h.disks.flatMap fun d => registration d.name :: d.geometry := by
    rw [geometryEdits, blocksOf_diskGeometry hwf, h.kept_blocks, List.flatMap_map]
    apply List.flatMap_congr
    intro d hd
    rw [Block.edits, DiskDescription.attributeEdits_eq (hwf.disk d hd)]
  rw [Listings.edits, hgeometry]
  exact congrArg (· ++ _) hcounters

/-- Every disk is known as it is described, still without partitions. -/
theorem diskOf_session (hwf : h.WellFormed) (timestamp : Int) {d : DiskDescription}
    (hd : d ∈ h.disks) :
    diskOf (h.render.listings.session timestamp).disks d.name = d.record timestamp := by
  have hcounters : (h.disks.map (DiskDescription.counters timestamp)).filter
      (DiskEdit.device · = d.name) = [d.counters timestamp] :=
    filter_map_key (f := DiskDescription.counters timestamp) hwf.diskNames (fun _ _ => rfl) hd
  have hgeometry : (h.disks.flatMap fun d => registration d.name :: d.geometry).filter
      (DiskEdit.device · = d.name) = registration d.name :: d.geometry := by
    refine filter_flatMap_key hwf.diskNames (fun e _ y hy => ?_) hd
    simp only [DiskDescription.geometry, List.mem_cons, List.not_mem_nil, or_false] at hy
    rcases hy with rfl | rfl | rfl | rfl <;> rfl
  rw [Listings.session, diskOf_applyEdits, edits_render hwf, editsOf_append, editsOf, editsOf,
    hcounters, hgeometry]
  rfl

/-! ## Partitions -/

/-- The names of partitions and their mount points can be written in rows. -/
theorem wellFormed_of_mem_partitions (hwf : h.WellFormed) {p : PartitionDescription}
    (hp : p ∈ h.partitions) : IsWord p.name ∧ ∀ m ∈ p.mount, IsWord m.1 ∧ '\n' ∉ m.2 := by
  obtain ⟨d, hd, hpd⟩ := List.mem_flatMap.1 hp
  have hpartition := (hwf.disk d hd).partitions p hpd
  exact ⟨hpartition.isWord (hwf.disk d hd).word, hpartition.mount⟩

/-- The mount points are those described. -/
theorem mounts_render (hwf : h.WellFormed) {p : PartitionDescription} (hp : p ∈ h.partitions) :
    (mountsOf h.render.listings.mounts).get? p.name = p.mount.map Prod.fst := by
  have hrow : ∀ q ∈ h.partitions, (q.mountLine.bind readMountRow).toList =
      (q.mount.map fun m => (q.name, m.1)).toList := by
    intro q hq
    obtain ⟨hname, hmount⟩ := wellFormed_of_mem_partitions hwf hq
    rw [PartitionDescription.mountLine]
    cases hm : q.mount with
    | none => rfl
    | some m =>
      obtain ⟨hplace, hoptions⟩ := hmount m hm
      rw [Option.map_some, Option.bind_some, readMountRow_eq hname hplace hoptions]
      rfl
  have hrows : (h.partitions.filterMap PartitionDescription.mountLine).filterMap readMountRow =
      h.partitions.flatMap fun q => (q.mount.map fun m => (q.name, m.1)).toList := by
    rw [List.filterMap_filterMap, List.filterMap_eq_flatMap_toList]
    exact List.flatMap_congr hrow
  have hpart : ∀ q ∈ h.partitions, ∀ row ∈ (q.mount.map fun m => (q.name, m.1)).toList,
      Prod.fst row = q.name := by
    intro q _ row hrow
    obtain ⟨m, -, rfl⟩ := Option.map_eq_some_iff.1 (Option.mem_toList.1 hrow)
    rfl
  -- so the mount table files one row for each partition that has a mount
  have hmounts : mountsOf h.render.listings.mounts =
      putMounts (h.partitions.flatMap fun q => (q.mount.map fun m => (q.name, m.1)).toList) [] :=
    congrArg (putMounts · []) hrows
  rw [hmounts, get?_putMounts, filter_flatMap_key hwf.partitionNames hpart hp, Table.get?_nil,
    Option.or_none]
  cases p.mount <;> rfl

/-- The partitions of a block are those described, still without their minor numbers. -/
theorem partitions_block (hwf : h.WellFormed) {d : DiskDescription} (hd : d ∈ h.disks)
    (hslash : d.partitions ≠ [] → '/' ∉ d.name) :
    Block.partitions geometryRule (mountsOf h.render.listings.mounts)
        ⟨d.name, d.partitionLines.map trim⟩ =
      d.partitions.map fun p => { p.record with minorNumber := 0 } := by
  have hdisk := hwf.disk d hd
  -- each partition is one section of the block: its name line opens it, and no other line does
  have hparts : ∀ s ∈ d.partitions.map fun p => (trim p.nameLine, p.attributeLines.map trim),
      IsSection (includes nameMark) s := by
    intro s hs
    obtain ⟨p, hp, rfl⟩ := List.mem_map.1 hs
    have hpartition := hdisk.partitions p hp
    refine ⟨PartitionDescription.includes_nameLine (hpartition.isWord hdisk.word), ?_⟩
    intro line hline
    obtain ⟨raw, hraw, rfl⟩ := List.mem_map.1 hline
    exact (PartitionDescription.not_opening_attributeLines hpartition raw hraw).2
  have hlines : d.partitionLines.map trim =
      (d.partitions.map fun p => (trim p.nameLine, p.attributeLines.map trim)).flatMap
        sectionLines := by
    rw [DiskDescription.partitionLines, List.map_flatMap, List.flatMap_map]
    rfl
  have hdescribe : ∀ p ∈ d.partitions,
      describe geometryRule (mountsOf h.render.listings.mounts) d.name
        (trim p.nameLine, p.attributeLines.map trim) = some { p.record with minorNumber := 0 } := by
    intro p hp
    have hmount := mounts_render hwf (List.mem_flatMap.2 ⟨d, hd, hp⟩)
    rw [PartitionDescription.describe_nameLine (hdisk.partitions p hp) hdisk.word
      (hslash (List.ne_nil_of_mem hp)), hmount]
    rfl
  rw [Block.partitions, hlines, sections_flatMap hparts, List.filterMap_map]
  exact (List.filterMap_congr hdescribe).trans (congrFun List.filterMap_eq_map' _)

/-- The minor numbers that the host answers with. -/
def minorOf (h : HostDescription) (name : Text) : Int :=
  Session.minorOf name (.ok (h.minorAnswer name))

/-- The batch of a disk holds the partitions described. -/
theorem batch_block (hwf : h.WellFormed) {d : DiskDescription} (hd : d ∈ h.disks)
    (hslash : d.partitions ≠ [] → '/' ∉ d.name) :
    Block.batch geometryRule (mountsOf h.render.listings.mounts) h.minorOf
        ⟨d.name, d.partitionLines.map trim⟩ =
      (d.name, d.partitions.map PartitionDescription.record) := by
  rw [Block.batch, partitions_block hwf hd hslash, List.map_map]
  congr 1
  apply List.map_congr_left
  intro p hp
  have hminor := minorOf_minorAnswer hwf (List.mem_flatMap.2 ⟨d, hd, hp⟩)
  rw [Function.comp_apply, Session.numbered]
  dsimp only
  rw [show h.minorOf p.record.name = p.minor from hminor]
  rfl

/-! ## The collection -/

/-- The devices registered are the disks of the host. -/
theorem registered_render_iff (hwf : h.WellFormed) (name : Text) :
    h.render.listings.Registered name ↔ name ∈ h.disks.map DiskDescription.name := by
  constructor
  · exact fun hname => List.elem_iff.1 hname.1
  · intro hname
    obtain ⟨d, hd, rfl⟩ := List.mem_map.1 hname
    have htokens := DiskDescription.tokens_counterLine (hwf.disk d hd).word
    refine ⟨h.isValid_render hd, .inl ⟨d.counterLine, List.mem_map_of_mem hd, ?_, ?_⟩⟩
    · simp [htokens]
    · rw [htokens, List.head?_cons]

/-- All names have a place in the natural order. -/
theorem sortable_of_hasName (hwf : h.WellFormed)
    (hslash : ∀ d ∈ h.disks, d.partitions ≠ [] → '/' ∉ d.name) {name : Text}
    (hname : h.render.listings.HasName name) : Sortable name := by
  rcases hname with ⟨hvalid, -⟩ | ⟨device, -, b, hb, rfl, hline⟩
  · obtain ⟨d, hd, rfl⟩ := List.mem_map.1 (List.elem_iff.1 hvalid)
    exact (hwf.disk d hd).sortable
  · rw [blocksOf_partitionGeometry hwf] at hb
    obtain ⟨d, hd, rfl⟩ := List.mem_map.1 hb
    have hmem := (name_mem_partitions_iff (mountsOf h.render.listings.mounts)).2 hline
    rw [partitions_block hwf hd (hslash d hd), List.map_map] at hmem
    obtain ⟨p, hp, rfl⟩ := List.mem_map.1 hmem
    exact ((hwf.disk d hd).partitions p hp).sortable

/-- What a collection leaves for a disk is what is described. -/
theorem describes_of_reads (hwf : h.WellFormed) {timestamp : Int} {after : Table Disk}
    (hreads : Reads (h.disks.map fun d => (d.name, d.partitions.map PartitionDescription.record))
      (h.render.listings.session timestamp).disks after) {d : DiskDescription} (hd : d ∈ h.disks) :
    d.Describes timestamp (diskOf after d.name) := by
  have hgained : gained d.name
      (h.disks.map fun d => (d.name, d.partitions.map PartitionDescription.record)) =
        d.partitions.map PartitionDescription.record := by
    have hfilter := filter_map_key
      (f := fun d : DiskDescription => (d.name, d.partitions.map PartitionDescription.record))
      (k := Prod.fst) hwf.diskNames (fun _ _ => rfl) hd
    rw [gained, hfilter]
    simp
  have hmem : d.name ∈
      (h.disks.map fun d => (d.name, d.partitions.map PartitionDescription.record)).map Prod.fst :=
    List.mem_map.2 ⟨_, List.mem_map_of_mem hd, rfl⟩
  obtain ⟨result, hsettles, hget⟩ := hreads.record d.name hmem
  rw [hgained, Listings.partitions_session, List.nil_append] at hsettles
  -- names are distinct over the whole host, so they are on each disk
  have hnames := hwf.partitionNames
  rw [partitions, List.map_flatMap, List.nodup_flatMap] at hnames
  have hnd : ((d.partitions.map PartitionDescription.record).map Partition.name).Nodup := by
    rw [List.map_map]
    exact hnames.1 d hd
  rw [diskOf_of_get? hget, diskOf_session hwf timestamp hd]
  exact ⟨rfl, hsettles.perm hnd, hsettles.1⟩

/-- A collection of a rendered host says what the host is, if no disk that has partitions has a
slash in its name. -/
theorem collect_render (hwf : h.WellFormed)
    (hslash : ∀ d ∈ h.disks, d.partitions ≠ [] → '/' ∉ d.name) (timestamp : Int) :
    ∃ snapshot, (collect (.ofFindings h.render) geometryRule timestamp).2 = .ok snapshot ∧
      h.Describes timestamp snapshot := by
  have hminor : Session.NumbersBy (some (Provider.ofFindings h.render).minor) h.minorOf :=
    fun _ _ => rfl
  have hlistings := listings_gather_ofFindings h.render timestamp
  obtain ⟨snapshot, after, hcollect, htime, harr, hperm, hstored, hkeys, hreads⟩ :=
    collect_reads (.ofFindings h.render) hminor timestamp
      fun name hname => sortable_of_hasName hwf hslash (hlistings ▸ hname)
  rw [hlistings] at hkeys hreads
  rw [blocksOf_partitionGeometry hwf, h.kept_blocks, List.map_map] at hreads
  have hreads := List.map_congr_left (fun d hd => batch_block hwf hd (hslash d hd)) ▸ hreads
  have hnames : (Table.keys after).Perm (h.disks.map DiskDescription.name) := by
    rw [List.perm_ext_iff_of_nodup hstored.nodup hwf.diskNames]
    exact fun name => (hkeys name).trans (registered_render_iff hwf name)
  have hdisks : (h.disks.map fun d => diskOf after d.name).Perm snapshot.disks := by
    rw [hstored.values_eq] at hperm
    have hmap := hnames.map (diskOf after)
    rw [List.map_map] at hmap
    exact (hperm.trans hmap).symm
  have hdescribes : List.Forall₂ (DiskDescription.Describes timestamp) h.disks
      (h.disks.map fun d => diskOf after d.name) := by
    rw [List.forall₂_map_right_iff, List.forall₂_same]
    exact fun d hd => describes_of_reads hwf hreads hd
  -- the descriptions are put in the order of the snapshot
  have hcomp : Relation.Comp (List.Forall₂ (DiskDescription.Describes timestamp)) List.Perm h.disks
      snapshot.disks := ⟨_, hdescribes, hdisks⟩
  rw [List.forall₂_comp_perm_eq_perm_comp_forall₂] at hcomp
  obtain ⟨order, horder, hall⟩ := hcomp
  exact ⟨snapshot, hcollect, htime, harr, order, horder.symm, hall⟩

/-! ## A host with one disk -/

/-- The first partition of a disk, which is mounted. -/
def firstPartition (disk : Text) : PartitionDescription where
  name := disk ++ "p1".toList
  size := 6
  note := "6B".toList
  uuid := "5a2c".toList
  kind := "ufs".toList
  mount := some ("/".toList, "local".toList)
  minor := 98

/-- A disk with one partition. -/
def smallDisk (disk : Text) : DiskDescription where
  name := disk
  reads := 1
  writes := 2
  kilobytesRead := 3
  kilobytesWritten := 4
  busySeconds := 5
  size := 10
  note := "10B".toList
  model := "SSD 850".toList
  serial := "S21".toList
  partitions := [firstPartition disk]

/-- A host with one disk. -/
def oneDisk (disk : Text) : HostDescription := ⟨[smallDisk disk]⟩

/-- The first partition of a disk is well formed, if its name is sortable. -/
theorem wellFormed_firstPartition {disk : Text} (h : Sortable (disk ++ "p1".toList)) :
    (firstPartition disk).WellFormed disk where
  suffix := by
    refine ⟨'p', ['1'], rfl, by decide, ?_⟩
    intro x hx
    rcases List.mem_pair.1 hx with rfl | rfl <;> decide
  sortable := h
  size := show (ofNat 6).length ≤ Number.digitLimit by decide
  minor := show (ofNat 98).length ≤ Number.digitLimit by decide
  note := show includes nameMark "6B".toList = false by decide
  uuid := show IsWord "5a2c".toList ∧ includes nameMark "5a2c".toList = false by decide
  kind := show IsWord "ufs".toList ∧ includes nameMark "ufs".toList = false by decide
  mount := fun m hm => by
    obtain rfl := Option.some.inj hm
    decide

/-- A small disk is well formed, if its name and that of its partition are sortable. -/
theorem wellFormed_smallDisk {disk : Text} (hword : IsWord disk) (hdisk : Sortable disk)
    (hpartition : Sortable (disk ++ "p1".toList)) : (smallDisk disk).WellFormed where
  word := hword
  sortable := hdisk
  reads := show 1 < 2 ^ 53 by decide
  writes := show 2 < 2 ^ 53 by decide
  kilobytesRead := show 3 < 2 ^ 53 by decide
  kilobytesWritten := show 4 < 2 ^ 53 by decide
  busySeconds := show 1000 * 5 < 2 ^ 53 by decide
  size := show (ofNat 10).length ≤ Number.digitLimit by decide
  model := show trim "SSD 850".toList = "SSD 850".toList by decide
  serial :=
    show trim "S21".toList = "S21".toList ∧ includes noSerial "S21".toList = false by decide
  partitions := fun p hp => by
    obtain rfl := List.mem_singleton.1 hp
    exact wellFormed_firstPartition hpartition

/-- A host with one small disk is well formed. -/
theorem wellFormed_oneDisk {disk : Text} (hword : IsWord disk) (hdisk : Sortable disk)
    (hpartition : Sortable (disk ++ "p1".toList)) : (oneDisk disk).WellFormed where
  disk := fun d hd => by
    obtain rfl := List.mem_singleton.1 hd
    exact wellFormed_smallDisk hword hdisk hpartition
  diskNames := by simp [oneDisk]
  partitionNames := by simp [oneDisk, smallDisk, partitions]

/-- The round trip of a host with one small disk. -/
theorem collect_render_ada0 :
    (oneDisk "ada0".toList).WellFormed ∧
      ∃ snapshot,
        (collect (.ofFindings (oneDisk "ada0".toList).render) geometryRule 1000).2 = .ok snapshot ∧
          (oneDisk "ada0".toList).Describes 1000 snapshot := by
  have hwf : (oneDisk "ada0".toList).WellFormed :=
    wellFormed_oneDisk (by decide) (by decide) (by decide)
  refine ⟨hwf, collect_render hwf (fun d hd _ => ?_) 1000⟩
  obtain rfl := List.mem_singleton.1 hd
  decide

/-- A disk with a slash in its name does not get its partition back. -/
theorem not_collect_render_of_slash :
    ¬ ∀ (h : HostDescription) (timestamp : Int), h.WellFormed →
      ∃ snapshot, (collect (.ofFindings h.render) geometryRule timestamp).2 = .ok snapshot ∧
        h.Describes timestamp snapshot := by
  intro hall
  have hwf : (oneDisk "a/b".toList).WellFormed :=
    wellFormed_oneDisk (by decide) (by decide) (by decide)
  obtain ⟨snapshot, hcollect, hdescribes⟩ := hall (oneDisk "a/b".toList) 1000 hwf
  -- the disk comes back without its partition
  have hnone : (collect (.ofFindings (oneDisk "a/b".toList).render) geometryRule 1000).2.map
      (fun snapshot => snapshot.disks.map Disk.partitions) = .ok [[]] := by rfl
  rw [hcollect, Except.map, Except.ok.injEq] at hnone
  obtain ⟨order, horder, hdisks⟩ := hdescribes.disks
  rw [List.perm_singleton.1 horder] at hdisks
  obtain ⟨disk, rest, hdisk, -, heq⟩ := List.forall₂_cons_left_iff.1 hdisks
  rw [heq, List.map_cons, List.cons.injEq] at hnone
  have hperm := hdisk.partitions
  rw [hnone.1] at hperm
  exact absurd hperm.length_eq (by decide)

end HostDescription

end StorageInventory
