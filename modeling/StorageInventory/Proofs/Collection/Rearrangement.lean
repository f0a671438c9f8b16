import Mathlib.Tactic
import StorageInventory.Proofs.Collection.Lookups
import StorageInventory.Proofs.Collection.Separation

/-!
# The order of lines

The order in which devices come up in a listing does not matter: the rows of different devices, the
blocks of different devices and the mount points of different partitions can be rearranged.  What is
said of one and the same device, or partition, has to keep its order, since the last of it counts.

* `Rearranged` — two lists hold the same, and what has the same key in the same order,
* `Listings.SameUpToOrder` — listings that are rearranged like this; they count the same
  (`account_eq`) and say the same of every device (`throughput_eq`, `geometry_eq`, `gained_eq`),
* `collect_rearranged` — so they come to the same snapshot.
-/

namespace StorageInventory

open Diagnostics Name Pass Text

/-! ## Rearrangements -/

/-- The lists hold the same, and those members that have a key in common in the same order. -/
structure Rearranged {α : Type} (key : α → Option Text) (xs ys : List α) : Prop where
  perm : xs.Perm ys
  filter_eq : ∀ k, xs.filter (fun x => key x = some k) = ys.filter fun x => key x = some k

namespace Rearranged

variable {α β : Type} {key : α → Option Text} {xs ys : List α}

theorem symm (h : Rearranged key xs ys) : Rearranged key ys xs :=
  ⟨h.perm.symm, fun k => (h.filter_eq k).symm⟩

/-- Only the keys that come up matter. -/
theorem iff_forall_mem :
    Rearranged key xs ys ↔ xs.Perm ys ∧ ∀ k ∈ xs.filterMap key,
      xs.filter (fun x => key x = some k) = ys.filter fun x => key x = some k := by
  refine ⟨fun h => ⟨h.perm, fun k _ => h.filter_eq k⟩, fun h => ⟨h.1, fun k => ?_⟩⟩
  by_cases hk : k ∈ xs.filterMap key
  · exact h.2 k hk
  · have hnone : ∀ x ∈ xs, key x ≠ some k := fun x hx heq =>
      hk (List.mem_filterMap.2 ⟨x, hx, heq⟩)
    rw [List.filter_eq_nil_iff.2 fun x hx => by simpa using hnone x hx,
      List.filter_eq_nil_iff.2 fun x hx => by simpa using hnone x (h.1.mem_iff.2 hx)]

instance [DecidableEq α] : Decidable (Rearranged key xs ys) :=
  decidable_of_iff _ iff_forall_mem.symm

/-- What is made of the members one by one is rearranged as they are, if it keeps their keys. -/
theorem filterMap {f : α → Option β} {key' : β → Option Text}
    (hkey : ∀ x y, f x = some y → key' y = key x) (h : Rearranged key xs ys) :
    Rearranged key' (xs.filterMap f) (ys.filterMap f) := by
  refine ⟨h.perm.filterMap f, fun k => ?_⟩
  have hfilter : ∀ zs : List α, (zs.filterMap f).filter (fun y => key' y = some k) =
      (zs.filter fun x => key x = some k).filterMap f := by
    intro zs
    rw [List.filter_filterMap, List.filterMap_filter]
    refine List.filterMap_congr fun x _ => ?_
    cases hx : f x with
    | none => simp
    | some y => simp [hkey x y hx, Option.filter]
  rw [hfilter, hfilter, h.filter_eq]

/-- What leaves the keys can be done before or after rearranging. -/
theorem map {f : α → β} {key' : β → Option Text} (hkey : ∀ x, key' (f x) = key x)
    (h : Rearranged key xs ys) : Rearranged key' (xs.map f) (ys.map f) := by
  rw [← List.filterMap_eq_map]
  refine h.filterMap fun x y hxy => ?_
  rw [← Option.some.inj hxy, hkey]

/-- What is left out can be left out before or after rearranging. -/
theorem filter (p : α → Bool) (h : Rearranged key xs ys) :
    Rearranged key (xs.filter p) (ys.filter p) := by
  refine ⟨h.perm.filter p, fun k => ?_⟩
  rw [List.filter_comm, h.filter_eq, List.filter_comm]

end Rearranged

/-- The blocks of the listings are rearranged, those of one device keeping their order; the lines
before the first block stay as they are. -/
structure RearrangedBlocks (lines lines' : List Text) : Prop where
  lead : (sections (isBlockHeader ∘ trim) lines).1 = (sections (isBlockHeader ∘ trim) lines').1
  blocks : Rearranged (fun s => some (lastToken s.1)) (sections (isBlockHeader ∘ trim) lines).2
    (sections (isBlockHeader ∘ trim) lines').2

namespace RearrangedBlocks

variable {lines lines' : List Text}

theorem symm (h : RearrangedBlocks lines lines') : RearrangedBlocks lines' lines :=
  ⟨h.lead.symm, h.blocks.symm⟩

/-- Rearranged blocks have the same lines. -/
theorem perm (h : RearrangedBlocks lines lines') : lines.Perm lines' := by
  rw [← append_sections (isBlockHeader ∘ trim) lines,
    ← append_sections (isBlockHeader ∘ trim) lines', h.lead]
  exact (h.blocks.perm.flatMap_right sectionLines).append_left _

/-- The blocks of rearranged listings are rearranged. -/
theorem blocks_rearranged (h : RearrangedBlocks lines lines') :
    Rearranged (fun b => some b.device) (blocksOf lines) (blocksOf lines') := by
  rw [blocksOf_eq, blocksOf_eq]
  exact h.blocks.map fun _ => rfl

/-- So are the blocks in scope. -/
theorem kept_rearranged (h : RearrangedBlocks lines lines') (valid : Text → Bool) :
    Rearranged (fun b => some b.device) (kept valid (blocksOf lines))
      (kept valid (blocksOf lines')) :=
  h.blocks_rearranged.filter _

/-- The lines stay inside the blocks in scope. -/
theorem inside_perm (h : RearrangedBlocks lines lines') (valid : Text → Bool) (isOpen : Bool) :
    (inside valid isOpen lines).Perm (inside valid isOpen lines') := by
  rw [inside, inside, standing, standing, sections_map, sections_map, h.lead]
  exact (((h.blocks.perm.map _).filter _).flatMap_right _).append_left _

/-- Rearranged listings name the same devices. -/
theorem names_iff (h : RearrangedBlocks lines lines') (device : Text) :
    (∃ line ∈ lines, Names line device) ↔ ∃ line ∈ lines', Names line device :=
  exists_congr fun _ => and_congr_left fun _ => h.perm.mem_iff

/-! The tallies of a geometry listing. -/

/-- Where the lines stand is counted alike for rearranged listings. -/
theorem placeTallies_eq (h : RearrangedBlocks lines lines') (source : Text) (valid : Text → Bool) :
    placeTallies source valid false lines = placeTallies source valid false lines' := by
  have hlength : lines.length = lines'.length := h.perm.length_eq
  have hheaders : headersOutOfScope valid lines = headersOutOfScope valid lines' :=
    h.perm.countP_eq _
  have houtside := (h.inside_perm (fun device => !valid device) true).countP_eq (· ≠ [])
  rw [placeTallies, placeTallies, hlength, hheaders, outside, outside]
  exact congrArg _ (congrArg _ (by rw [Bool.not_false, houtside]))

/-- The lines of disks are counted alike for rearranged listings. -/
theorem diskTallies_eq (h : RearrangedBlocks lines lines') (valid : Text → Bool) :
    diskTallies valid false lines = diskTallies valid false lines' := by
  have hinside := h.inside_perm valid false
  rw [diskTallies, diskTallies, h.placeTallies_eq, sizeTallies, sizeTallies,
    hinside.countP_eq isBareSize, hinside.countP_eq isBadSize]

/-- The lines of partitions are counted alike for rearranged listings. -/
theorem attributeTallies_eq (h : RearrangedBlocks lines lines') (rule : NamingRule)
    (valid : Text → Bool) :
    attributeTallies (described rule valid lines) =
      attributeTallies (described rule valid lines') := by
  have hdescribed : (described rule valid lines).Perm (described rule valid lines') :=
    (h.kept_rearranged valid).perm.flatMap_right _
  rw [attributeTallies, attributeTallies, hdescribed.countP_eq isBare,
    hdescribed.countP_eq isBadSize]

end RearrangedBlocks

/-! ## Listings -/

/-- The lines of the listings are rearranged, those of one device or partition keeping their
order. -/
structure Listings.SameUpToOrder (l l' : Listings) : Prop where
  devices : l.devices = l'.devices
  mounts : Rearranged (fun row => (readMountRow row).map Prod.fst) l.mounts l'.mounts
  counters : Rearranged (fun line => (tokens line).head?) l.counters l'.counters
  diskGeometry : RearrangedBlocks l.diskGeometry l'.diskGeometry
  partitionGeometry : RearrangedBlocks l.partitionGeometry l'.partitionGeometry

/-- The same rows with a key, in the same order, leave the same mount point for it. -/
theorem get?_mountsOf_of_rearranged {rows rows' : List Text}
    (h : Rearranged (fun row => (readMountRow row).map Prod.fst) rows rows') (name : Text) :
    (mountsOf rows).get? name = (mountsOf rows').get? name := by
  have hmounts : Rearranged (fun row => some row.1) (rows.filterMap readMountRow)
      (rows'.filterMap readMountRow) := h.filterMap fun _ _ hrow => by rw [hrow, Option.map_some]
  have hfilter := hmounts.filter_eq name
  simp only [Option.some.injEq] at hfilter
  rw [mountsOf, get?_putMounts, hfilter, mountsOf, get?_putMounts]

/-- A block has the same partitions wherever the mount points are the same. -/
theorem partitions_congr {mounts mounts' : Table Text}
    (h : ∀ name, mounts.get? name = mounts'.get? name) (rule : NamingRule) (b : Block) :
    b.partitions rule mounts = b.partitions rule mounts' := by
  have hdescribe : describe rule mounts b.device = describe rule mounts' b.device := by
    funext s
    rw [describe, describe]
    congr 1
    funext name
    rw [blankPartition, h, blankPartition]
  rw [Block.partitions, hdescribe, Block.partitions]

namespace Listings.SameUpToOrder

variable {l l' : Listings}

theorem symm (h : l.SameUpToOrder l') : l'.SameUpToOrder l :=
  ⟨h.devices.symm, h.mounts.symm, h.counters.symm, h.diskGeometry.symm, h.partitionGeometry.symm⟩

/-- The scope does not depend on the order. -/
theorem isValid_eq (h : l.SameUpToOrder l') : l.isValid = l'.isValid := by
  funext device
  rw [isValid, h.devices, isValid]

/-! The listings say the same of every device. -/

/-- The throughput of a device does not depend on the order of different devices. -/
theorem throughput_eq (h : l.SameUpToOrder l') (timestamp : Int) (device : Text) :
    l.throughput timestamp device = l'.throughput timestamp device := by
  have hedits : Rearranged (fun e => some e.device)
      (counterEdits timestamp l.isValid l.counters)
      (counterEdits timestamp l.isValid l'.counters) := by
    refine h.counters.filterMap fun line e he => ?_
    obtain ⟨⟨first, rest⟩, haccept, rfl⟩ := Option.map_eq_some_iff.1 he
    rw [(acceptCounterRow_eq_some.1 haccept).1, List.head?_cons]
  have hfilter := hedits.filter_eq device
  simp only [Option.some.injEq] at hfilter
  rw [throughput, throughput, ← h.isValid_eq, editsOf, hfilter, editsOf]

/-- The geometry of a device does not depend on the order of different devices. -/
theorem geometry_eq (h : l.SameUpToOrder l') (device : Text) :
    l.geometry device = l'.geometry device := by
  have hdevice : ∀ blocks : List Block,
      editsOf ((blocks.filter (·.device = device)).flatMap Block.edits) device =
        editsOf (blocks.flatMap Block.edits) device := fun blocks =>
    editsOf_flatMap_filter fun b _ hother e he => by
      rw [(device_of_mem_edits he).1]
      simpa using hother
  have hfilter := (h.diskGeometry.kept_rearranged l.isValid).filter_eq device
  simp only [Option.some.injEq] at hfilter
  rw [geometry, geometry, ← h.isValid_eq, geometryEdits, geometryEdits, ← hdevice, hfilter, hdevice]

/-- The partitions that a device gains do not depend on the order of different devices. -/
theorem gained_eq (h : l.SameUpToOrder l') (rule : NamingRule) (minor : Text → Int)
    (device : Text) : l.gained rule minor device = l'.gained rule minor device := by
  have hbatch : Block.batch rule (mountsOf l.mounts) minor =
      Block.batch rule (mountsOf l'.mounts) minor := by
    funext b
    rw [Block.batch, partitions_congr (get?_mountsOf_of_rearranged h.mounts), Block.batch]
  have hbatches : Rearranged (fun batch => some batch.1)
      ((kept l.isValid (blocksOf l.partitionGeometry)).map
        (Block.batch rule (mountsOf l'.mounts) minor))
      ((kept l.isValid (blocksOf l'.partitionGeometry)).map
        (Block.batch rule (mountsOf l'.mounts) minor)) :=
    (h.partitionGeometry.kept_rearranged l.isValid).map fun _ => rfl
  have hfilter := hbatches.filter_eq device
  simp only [Option.some.injEq] at hfilter
  rw [gained, gained, ← h.isValid_eq, hbatch, Pass.gained, hfilter, Pass.gained]

/-- Which devices are registered does not depend on the order. -/
theorem registered_iff (h : l.SameUpToOrder l') (device : Text) :
    l.Registered device ↔ l'.Registered device := by
  have hrows : (∃ line ∈ l.counters, IsCounterRow line device) ↔
      ∃ line ∈ l'.counters, IsCounterRow line device :=
    exists_congr fun _ => and_congr_left fun _ => h.counters.perm.mem_iff
  rw [Registered, Registered, h.isValid_eq, hrows, h.diskGeometry.names_iff,
    h.partitionGeometry.names_iff]

/-! They count the same. -/

/-- The names that are looked up are the same, in some order. -/
theorem names_perm (h : l.SameUpToOrder l') (rule : NamingRule) :
    (l.names rule).Perm (l'.names rule) := by
  rw [names, names, ← h.isValid_eq]
  exact (h.partitionGeometry.kept_rearranged l.isValid).perm.flatMap_right _

/-- Whether a source has lines does not depend on their order. -/
theorem unavailable_eq {lines lines' : List Text} (h : lines.Perm lines') (source : Text) :
    unavailable source lines = unavailable source lines' := by
  have hnil : lines = [] ↔ lines' = [] :=
    ⟨fun hl => (hl ▸ h).nil_eq.symm, fun hl => (hl ▸ h).eq_nil⟩
  simp only [unavailable, hnil]

/-- What is counted does not depend on the order. -/
theorem account_eq (h : l.SameUpToOrder l') (rule : NamingRule) :
    l.account rule = l'.account rule := by
  have hmounts : mountTallies l.mounts = mountTallies l'.mounts := by
    rw [mountTallies, mountTallies, h.mounts.perm.length_eq, h.mounts.perm.countP_eq]
  have hcounters : counterTallies l.isValid l.counters = counterTallies l.isValid l'.counters := by
    rw [counterTallies, counterTallies, h.counters.perm.length_eq, h.counters.perm.countP_eq,
      ((h.counters.perm.filter _).map unreadable).sum_eq]
  rw [account, account, ← h.isValid_eq, h.devices, unavailable_eq h.mounts.perm,
    unavailable_eq h.counters.perm, unavailable_eq h.diskGeometry.perm,
    unavailable_eq h.partitionGeometry.perm, hmounts, hcounters, h.diskGeometry.diskTallies_eq,
    h.partitionGeometry.placeTallies_eq, h.partitionGeometry.attributeTallies_eq]

end Listings.SameUpToOrder

/-! ## Collections -/

section

variable {p q : Provider} {rule : NamingRule} {timestamp : Int} {answer : Text → Finding}
  {l l' : Listings} {minor : Text → Int} {snapshot snapshot' : Snapshot}

/-- Listings that are the same up to order have snapshots of the same disks. -/
theorem disks_eq_of_sameUpToOrder (h : l.SameUpToOrder l')
    (hs : l.Holds rule minor timestamp snapshot) (hs' : l'.Holds rule minor timestamp snapshot') :
    snapshot.disks = snapshot'.disks := by
  have hdisk : snapshot.diskNamed = snapshot'.diskNamed := by
    funext name
    obtain ⟨partitions, hsettles, hnamed⟩ := hs.diskNamed name
    obtain ⟨partitions', hsettles', hnamed'⟩ := hs'.diskNamed name
    rw [h.gained_eq] at hsettles
    rw [hnamed, hnamed', h.throughput_eq, h.geometry_eq, hsettles.unique hsettles']
  rw [hs.disks_eq, hs'.disks_eq, hs.map_name_eq hs' h.registered_iff, hdisk]

/-- They record the same, whichever lookups fail. -/
theorem report_eq_of_sameUpToOrder (h : l.SameUpToOrder l') (rule : NamingRule)
    (failed : Text → Bool) :
    (recordAll (l.events rule failed) {}).report =
      (recordAll (l'.events rule failed) {}).report := by
  refine report_congr distinct_empty.recordAll distinct_empty.recordAll fun source kind => ?_
  rw [(l.amounts_events rule failed).recorded, (l'.amounts_events rule failed).recorded,
    h.account_eq, lookupTallies, lookupTallies, (h.names_perm rule).countP_eq]

/-- A collection from lines that are the same up to order comes to the same snapshot. -/
theorem collect_of_sameUpToOrder (hp : AnswersBy (some p.minor) answer)
    (hq : AnswersBy (some q.minor) answer)
    (h : (gather p timestamp).2.SameUpToOrder (gather q timestamp).2)
    (hok : (collect p rule timestamp).2 = .ok snapshot) :
    (collect q rule timestamp).2 = .ok snapshot := by
  obtain ⟨hnames, hregistered⟩ := collect_isOk_iff_names.1 ⟨snapshot, hok⟩
  obtain ⟨snapshot', hok'⟩ : ∃ snapshot', (collect q rule timestamp).2 = .ok snapshot' :=
    collect_isOk_iff_names.2
      ⟨fun name hname => hnames name ((h.names_perm rule).mem_iff.2 hname),
        fun name hname => hregistered name ((h.registered_iff name).2 hname)⟩
  have hs := collect_holds hp.numbersBy hok
  have hs' := collect_holds hq.numbersBy hok'
  -- both snapshots are determined by what does not depend on the order
  have hsame : snapshot = snapshot' := by
    have hdisks := disks_eq_of_sameUpToOrder h hs hs'
    have htime := hs.timestamp_eq.trans hs'.timestamp_eq.symm
    have hreport : snapshot.diagnostics = snapshot'.diagnostics := by
      rw [collect_diagnostics hp.failsBy hok, collect_diagnostics hq.failsBy hok']
      exact report_eq_of_sameUpToOrder h rule (failedBy (some p.minor) answer)
    cases snapshot
    cases snapshot'
    rw [Snapshot.mk.injEq]
    exact ⟨hdisks, htime, hreport⟩
  rw [hsame]
  exact hok'

/-- Collections whose lines are the same up to order, and whose lookups answer alike, come to the
same snapshot, if to any. -/
theorem collect_rearranged (hp : AnswersBy (some p.minor) answer)
    (hq : AnswersBy (some q.minor) answer)
    (h : (gather p timestamp).2.SameUpToOrder (gather q timestamp).2) (snapshot : Snapshot) :
    (collect p rule timestamp).2 = .ok snapshot ↔ (collect q rule timestamp).2 = .ok snapshot :=
  ⟨collect_of_sameUpToOrder hp hq h, collect_of_sameUpToOrder hq hp h.symm⟩

end

/-- The rows and the blocks of two devices, in two orders. -/
theorem collect_rearranged_ada1 :
    let answer : Text → Finding := fun _ => .ok (some ["110".toList])
    let findings : Findings :=
      { devices := .ok ["ada0".toList, "ada1".toList]
        mounts := .ok
          ["/dev/ada0p1 on /a".toList, "/dev/ada0p1 on /b".toList, "/dev/ada1p1 on /c".toList]
        counters := .ok
          ["ada0 1 2 3 4 0 0 5".toList, "ada0 6 7 8 9 0 0 1".toList, "ada1 1 1 1 1 0 0 1".toList]
        diskGeometry := .ok none
        partitionGeometry := .ok
          ["lost".toList, "Geom name: ada0".toList, "1. Name: ada0p1".toList,
            "Geom name: ada1".toList, "1. Name: ada1p1".toList]
        minor := answer }
    let p := Provider.ofFindings findings
    let q := Provider.ofFindings
      { findings with
        mounts := .ok
          ["/dev/ada1p1 on /c".toList, "/dev/ada0p1 on /a".toList, "/dev/ada0p1 on /b".toList]
        counters := .ok
          ["ada0 1 2 3 4 0 0 5".toList, "ada1 1 1 1 1 0 0 1".toList, "ada0 6 7 8 9 0 0 1".toList]
        partitionGeometry := .ok
          ["lost".toList, "Geom name: ada1".toList, "1. Name: ada1p1".toList,
            "Geom name: ada0".toList, "1. Name: ada0p1".toList] }
    ∃ snapshot, (collect p geometryRule 7).2 = .ok snapshot ∧
      (collect q geometryRule 7).2 = .ok snapshot := by
  intro answer findings p q
  obtain ⟨snapshot, hok⟩ : ∃ snapshot, (collect p geometryRule 7).2 = .ok snapshot := ⟨_, rfl⟩
  have hp : AnswersBy (some p.minor) answer := answersBy_of answer
  have hq : AnswersBy (some q.minor) answer := answersBy_of answer
  have h : (gather p 7).2.SameUpToOrder (gather q 7).2 := by
    rw [listings_gather_ofFindings, listings_gather_ofFindings]
    exact ⟨by decide, by decide, by decide, ⟨by decide, by decide⟩, ⟨by decide, by decide⟩⟩
  exact ⟨snapshot, hok, (collect_rearranged hp hq h snapshot).1 hok⟩

end StorageInventory
