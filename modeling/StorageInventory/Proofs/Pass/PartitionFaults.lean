import Mathlib.Tactic
import StorageInventory.Proofs.Pass.PartitionGeometry

/-!
# When partition geometry fails

The pass fails at a partition whose name cannot be looked up, or has no place in the natural order,
and at nothing else.  The rule of the geometry listing accepts only names that can be looked up, so
under it the natural order is all that is left to fail.

* `readBlocks_isOk_iff` — reading blocks fails only at such a name, under any rule,
* `geometryRule_eq_some` — the names that the geometry rule accepts,
* `readPartitionGeometry_isOk_iff` — under that rule, the pass fails exactly if an accepted name is
  not sortable.

A block is attached to the partitions that its device has already, so their names matter as well.
They do not where partitions have settled (`Tidy`), which each block leaves so.
-/

namespace StorageInventory.Pass

open Table Name Text

variable {rule : NamingRule} {lookup : Option (Text → Answer)}

/-! ## Failure -/

/-- Batches leave disks tidy that were so before. -/
theorem Reads.tidy {batches : List Batch} {before after : Table Disk}
    (h : Reads batches before after) (ht : Tidy before) : Tidy after := by
  intro device
  by_cases hmem : device ∈ batches.map Prod.fst
  · obtain ⟨result, hsettles, hget⟩ := h.record device hmem
    rw [diskOf_of_get? hget]
    exact hsettles.1
  · rw [diskOf, h.other device hmem]
    exact ht device

/-- Where partitions have settled, they settle with what a device gains; the rest of its record
stays as it is. -/
theorem Reads.exists_settles {batches : List Batch} {before after : Table Disk}
    (h : Reads batches before after) (ht : Tidy before) (device : Text) :
    ∃ result, Settles ((diskOf before device).partitions ++ gained device batches) result ∧
      diskOf after device = { diskOf before device with partitions := result } := by
  by_cases hmem : device ∈ batches.map Prod.fst
  · obtain ⟨result, hsettles, hget⟩ := h.record device hmem
    exact ⟨result, hsettles, diskOf_of_get? hget⟩
  · -- the device gains nothing
    refine ⟨(diskOf before device).partitions, ?_, ?_⟩
    · rw [gained_of_not_mem hmem, List.append_nil]
      exact settles_of_arranged (ht device)
    · rw [diskOf, h.other device hmem, ← diskOf]

/-- The names of a block's partitions can be looked up and put in order. -/
def Block.IsSound (rule : NamingRule) (lookup : Option (Text → Answer)) (mounts : Table Text)
    (b : Block) : Prop :=
  Session.Resolvable lookup (b.partitions rule mounts) ∧
    ∀ p ∈ b.partitions rule mounts, Sortable p.name

/-- Whether a block is sound depends on the names that the rule accepts, and not on mount points. -/
theorem isSound_iff {mounts : Table Text} {b : Block} :
    b.IsSound rule lookup mounts ↔
      ∀ name ∈ b.names rule, (lookup ≠ none → isPartitionName name = true) ∧ Sortable name := by
  rw [Block.IsSound, Session.Resolvable, ← Block.map_name_partitions rule mounts,
    List.forall_mem_map]
  constructor
  · exact fun h p hp => ⟨fun hne => h.1 hne p hp, h.2 p hp⟩
  · exact fun h => ⟨fun hne p hp => (h p hp).1 hne, fun p hp => (h p hp).2⟩

/-- The block can be attached where its device has these partitions already. -/
def Block.Attaches (rule : NamingRule) (lookup : Option (Text → Answer)) (mounts : Table Text)
    (disks : Table Disk) (b : Block) : Prop :=
  b.IsSound rule lookup mounts ∧ ∀ p ∈ (diskOf disks b.device).partitions, Sortable p.name

/-- A block in scope is read without a fault exactly if it can be attached. -/
theorem attaches_iff_readBlock {b : Block} {s : Session} (h : s.isValid b.device = true) :
    (readBlock rule lookup b s).2 = none ↔ b.Attaches rule lookup s.mounts s.disks := by
  rw [readBlock_isOk_iff h, List.forall_mem_append, Block.Attaches, Block.IsSound]
  tauto

/-- A block that has been attached leaves to every other block what it found. -/
theorem attaches_after_readBlock {b other : Block} {s : Session} (h : s.isValid b.device = true)
    (hok : (readBlock rule lookup b s).2 = none) (rule' : NamingRule)
    (lookup' : Option (Text → Answer)) :
    other.Attaches rule' lookup' (readBlock rule lookup b s).1.mounts
        (readBlock rule lookup b s).1.disks ↔
      other.Attaches rule' lookup' s.mounts s.disks := by
  have hold := ((attaches_iff_readBlock h).1 hok).2
  obtain ⟨batch, result, -, hsettles, hstore⟩ := readBlock_ok h hok
  have hmounts : (readBlock rule lookup b s).1.mounts = s.mounts := hstore.mounts
  rw [Block.Attaches, Block.Attaches, hmounts, hstore.disks, Session.disks_updateDisk]
  refine and_congr_right fun _ => ?_
  rw [diskOf, get?_apply]
  split
  · next heq =>
    -- the partitions of the same device are sortable, before as after
    rw [heq]
    exact iff_of_true hsettles.1.1 hold
  · rfl

/-- Reading blocks fails only at a name that cannot be looked up or put in order, be it one that a
block describes or one that its device has already. -/
theorem readBlocks_isOk_iff {blocks : List Block} {s : Session} :
    (readBlocks rule lookup blocks s).2 = none ↔
      ∀ b ∈ kept s.isValid blocks, b.Attaches rule lookup s.mounts s.disks := by
  induction blocks generalizing s with
  | nil => simp [readBlocks, kept]
  | cons b blocks ih =>
    rw [readBlocks_cons_isOk_iff]
    by_cases h : s.isValid b.device = true
    · rw [attaches_iff_readBlock h, kept_cons_of_valid h, List.forall_mem_cons]
      refine and_congr_right fun hb => ?_
      have hok := (attaches_iff_readBlock h).2 hb
      rw [ih, (readBlock_frame hok).1]
      exact forall_congr' fun _ => imp_congr_right fun _ => attaches_after_readBlock h hok _ _
    · have h : s.isValid b.device = false := by simpa using h
      obtain ⟨hstore, hok⟩ := readBlock_of_not_valid rule lookup h
      rw [kept_cons_of_not_valid h, ih, hstore.isValid, hstore.mounts, hstore.disks]
      exact and_iff_right hok

/-- Blocks that have been read leave to every block what they found. -/
theorem attaches_after_readBlocks {blocks : List Block} {s : Session}
    (hok : (readBlocks rule lookup blocks s).2 = none) (rule' : NamingRule)
    (lookup' : Option (Text → Answer)) (other : Block) :
    other.Attaches rule' lookup' (readBlocks rule lookup blocks s).1.mounts
        (readBlocks rule lookup blocks s).1.disks ↔
      other.Attaches rule' lookup' s.mounts s.disks := by
  induction blocks generalizing s with
  | nil => rfl
  | cons b blocks ih =>
    obtain ⟨hb, hrest⟩ := readBlocks_cons_isOk_iff.1 hok
    rw [readBlocks, goOn_of_isOk hb, ih hrest]
    by_cases h : s.isValid b.device = true
    · exact attaches_after_readBlock h hb rule' lookup'
    · have hstore := (readBlock_of_not_valid rule lookup (by simpa using h)).1
      rw [hstore.mounts, hstore.disks]

/-- Where partitions have settled, only the names that blocks describe matter. -/
theorem readBlocks_isOk_iff_of_tidy {blocks : List Block} {s : Session} (ht : Tidy s.disks) :
    (readBlocks rule lookup blocks s).2 = none ↔
      ∀ b ∈ kept s.isValid blocks, b.IsSound rule lookup s.mounts := by
  rw [readBlocks_isOk_iff]
  exact forall_congr' fun b => imp_congr_right fun _ => and_iff_left (ht b.device).1

/-- Where all names can be looked up, what fails is the natural order. -/
theorem isOrderFault_of_readBlocks {blocks : List Block} {s : Session} {fault : Fault}
    (hr : ∀ b mounts, Session.Resolvable lookup (Block.partitions rule mounts b))
    (h : (readBlocks rule lookup blocks s).2 = some fault) : IsOrderFault fault := by
  induction blocks generalizing s with
  | nil => simp [readBlocks] at h
  | cons b blocks ih =>
    rw [readBlocks] at h
    cases hb : (readBlock rule lookup b s).2 with
    | none =>
      rw [goOn_of_isOk hb] at h
      exact ih h
    | some other =>
      rw [goOn_of_fault hb, hb, Option.some.injEq] at h
      subst h
      by_cases hvalid : s.isValid b.device = true
      · rw [readBlock_of_valid hvalid] at hb
        exact Session.isOrderFault_of_attach (hr b _) hb
      · rw [(readBlock_of_not_valid rule lookup (by simpa using hvalid)).2] at hb
        simp at hb

/-! ## The rule of the geometry listing -/

/-- The rule takes the last word of a line with a name mark, if it is a component that goes on
behind the name of the disk with no digit. -/
theorem geometryRule_eq_some {line disk name : Text} (h : geometryRule line disk = some name) :
    includes nameMark line = true ∧ name = lastToken line ∧ name.elem '/' = false ∧
      ∃ c rest, name = disk ++ c :: rest ∧ isDigitLike c = false := by
  rw [geometryRule] at h
  split at h
  · simp at h
  · next hmark =>
    dsimp only at h
    split at h
    · simp at h
    · next hname =>
      split at h
      · simp at h
      · next c rest hdrop =>
        split at h
        · simp at h
        · next hdigit =>
          obtain rfl := Option.some.inj h
          -- no check has refused the candidate: it goes on behind the disk and is a component
          rw [Bool.or_eq_true, not_or] at hname
          have hprefix : disk <+: lastToken line := by simpa using hname.1
          obtain ⟨tail, htail⟩ := hprefix
          refine ⟨by simpa using hmark, rfl, by simpa using hname.2, c, rest, ?_,
            by simpa using hdigit⟩
          rw [← htail, List.drop_left] at hdrop
          rw [← htail, hdrop]

/-- The rule accepts only names that can be looked up. -/
theorem isPartitionName_of_geometryRule {line disk name : Text}
    (h : geometryRule line disk = some name) : isPartitionName name = true := by
  obtain ⟨-, -, hslash, c, rest, hname, -⟩ := geometryRule_eq_some h
  rw [isPartitionName, hslash, hname]
  simp

/-- A block has a partition of a name exactly if the rule finds that name in its body. -/
theorem name_mem_partitions_iff (mounts : Table Text) {b : Block} {name : Text} :
    name ∈ (b.partitions geometryRule mounts).map Partition.name ↔
      ∃ line ∈ b.body, geometryRule line b.device = some name := by
  rw [Block.map_name_partitions, Block.names, List.mem_filterMap]
  constructor
  · rintro ⟨line, hline, hname⟩
    exact ⟨line, (List.mem_filter.1 hline).1, hname⟩
  · rintro ⟨line, hline, hname⟩
    exact ⟨line, List.mem_filter.2 ⟨hline, (geometryRule_eq_some hname).1⟩, hname⟩

/-- The rule never finds a name that cannot be looked up. -/
theorem resolvable_geometryRule (lookup : Option (Text → Answer)) (b : Block)
    (mounts : Table Text) : Session.Resolvable lookup (b.partitions geometryRule mounts) := by
  intro _ p hp
  obtain ⟨line, -, hname⟩ := (name_mem_partitions_iff _).1 (List.mem_map_of_mem hp)
  exact isPartitionName_of_geometryRule hname

/-- The name is accepted as that of a partition in a block in scope. -/
def Accepted (valid : Text → Bool) (lines : List Text) (name : Text) : Prop :=
  ∃ b ∈ blocksOf lines, valid b.device = true ∧
    ∃ line ∈ b.body, geometryRule line b.device = some name

/-- With the geometry rule, the pass fails exactly if an accepted name is not sortable. -/
theorem readPartitionGeometry_isOk_iff (lookup : Option (Text → Answer)) (lines : List Text)
    {s : Session} (ht : Tidy s.disks) :
    (readPartitionGeometry geometryRule lookup lines s).2 = none ↔
      ∀ name, Accepted s.isValid lines name → Sortable name := by
  rw [(readPartitionGeometry_agrees geometryRule lookup lines s).2, readBlocks_isOk_iff_of_tidy ht]
  constructor
  · rintro h name ⟨b, hb, hvalid, hline⟩
    obtain ⟨p, hp, rfl⟩ := List.mem_map.1 ((name_mem_partitions_iff s.mounts).2 hline)
    exact (h b (List.mem_filter.2 ⟨hb, hvalid⟩)).2 p hp
  · intro h b hb
    obtain ⟨hb, hvalid⟩ := List.mem_filter.1 hb
    refine ⟨resolvable_geometryRule lookup b s.mounts, fun p hp => h p.name ⟨b, hb, hvalid, ?_⟩⟩
    exact (name_mem_partitions_iff _).1 (List.mem_map_of_mem hp)

/-- Under the rule, a pass over partitions fails only by a name without a place in the order. -/
theorem isOrderFault_of_readPartitionGeometry {lookup : Option (Text → Answer)}
    {lines : List Text} {s : Session} {fault : Fault}
    (h : (readPartitionGeometry geometryRule lookup lines s).2 = some fault) :
    IsOrderFault fault := by
  rw [(readPartitionGeometry_agrees geometryRule lookup lines s).2] at h
  exact isOrderFault_of_readBlocks (resolvable_geometryRule lookup) h

end StorageInventory.Pass
