import Mathlib.Tactic
import StorageInventory.Proofs.Pass.PartitionBlocks

/-!
# Lines that say nothing of a partition

A line of the partition listing that opens no block, marks no name and has no attribute of a
partition can stand anywhere: the partitions of every block are the same with it and without it.  A
line that marks a name is different, since it ends the partition before it even where the rule does
not accept it; such a line says nothing only if the rule refuses it and no attribute follows before
the next mark.

* `described_insert` — a line that says nothing leaves the partitions of a block,
* `blocksOf_insert` — and those of a listing, block by block,
* `readPartitionGeometry_insert` — so the pass differs at most in what it counts.
-/

namespace StorageInventory.Pass

open Text

/-- The line has no attribute of a partition. -/
def IsMute (line : Text) : Prop :=
  ∀ label ∈ [sizeLabel, uuidLabel, typeLabel], labelled label line = none

/-- In the block of a device, a line in front of others says nothing of a partition: it is mute, and
if it marks a name, the rule refuses it and the lines up to the next mark are mute. -/
def SaysNothing (rule : NamingRule) (device line : Text) (rest : List Text) : Prop :=
  IsMute line ∧ (includes nameMark line = true →
    rule line device = none ∧ ∀ other ∈ (sections (includes nameMark) rest).1, IsMute other)

/-- The device of the last block that some lines open, if they open one. -/
def openDevice (lines : List Text) : Option Text :=
  (lines.filter fun line => isBlockHeader (trim line)).getLast?.map lastToken

/-! ## Inside a block -/

/-- A mute line says nothing of any partition. -/
theorem fill_singleton_of_isMute {line : Text} (h : IsMute line) (p : Partition) :
    fill [line] p = p := by
  rw [fill, lastValue_singleton, lastValue_singleton, lastValue_singleton, h sizeLabel (by simp),
    h uuidLabel (by simp), h typeLabel (by simp)]
  rfl

/-- Mute lines change no partition. -/
theorem fill_of_isMute {lines : List Text} (h : ∀ line ∈ lines, IsMute line) (p : Partition) :
    fill lines p = p := by
  induction lines generalizing p with
  | nil => rfl
  | cons line rest ih =>
    rw [fill_cons, fill_singleton_of_isMute (h line (by simp)),
      ih fun other hother => h other (List.mem_cons_of_mem _ hother)]

/-- A line that says nothing, put in anywhere in a block, changes neither what is said of the
partition that is open at the beginning nor the partitions that are started. -/
theorem described_insert {rule : NamingRule} {device line : Text} {before after : List Text}
    (h : SaysNothing rule device line after) (mounts : Table Text) :
    (∀ p, fill (sections (includes nameMark) (before ++ line :: after)).1 p =
        fill (sections (includes nameMark) (before ++ after)).1 p) ∧
      (sections (includes nameMark) (before ++ line :: after)).2.filterMap
          (describe rule mounts device) =
        (sections (includes nameMark) (before ++ after)).2.filterMap
          (describe rule mounts device) := by
  induction before with
  | nil =>
    rw [List.nil_append, List.nil_append]
    cases hmark : includes nameMark line with
    | false =>
      rw [sections_line hmark]
      refine ⟨fun p => ?_, rfl⟩
      rw [fill_cons, fill_singleton_of_isMute h.1]
    | true =>
      -- the line takes what follows it away from the partition in front, and that is nothing
      obtain ⟨hrule, hrest⟩ := h.2 hmark
      rw [sections_head hmark]
      refine ⟨fun p => ?_, ?_⟩
      · rw [fill_nil, fill_of_isMute hrest]
      · rw [List.filterMap_cons_none]
        rw [describe, hrule, Option.map_none]
  | cons first before ih =>
    rw [List.cons_append, List.cons_append]
    cases hmark : includes nameMark first with
    | false =>
      rw [sections_line hmark, sections_line hmark]
      refine ⟨fun p => ?_, ih.2⟩
      rw [fill_cons, ih.1, ← fill_cons]
    | true =>
      rw [sections_head hmark, sections_head hmark]
      refine ⟨fun p => rfl, ?_⟩
      rw [List.filterMap_cons, List.filterMap_cons, ih.2, describe, describe]
      simp only [ih.1]

/-! ## In a listing -/

/-- Two blocks of one device that have the same partitions. -/
def SamePartitions (rule : NamingRule) (a b : Block) : Prop :=
  a.device = b.device ∧ ∀ mounts, a.partitions rule mounts = b.partitions rule mounts

theorem SamePartitions.refl (rule : NamingRule) (b : Block) : SamePartitions rule b b :=
  ⟨rfl, fun _ => rfl⟩

/-- The part of a listing in front of the first line that opens. -/
theorem fst_sections (opens : Text → Bool) (lines : List Text) :
    (sections opens lines).1 = lines.takeWhile fun line => !opens line := by
  induction lines with
  | nil => rfl
  | cons line rest ih =>
    cases h : opens line with
    | true => rw [sections_head h, List.takeWhile_cons_of_neg (by simp [h])]
    | false => rw [sections_line h, List.takeWhile_cons_of_pos (by simp [h]), ih]

/-- What stands behind a line that opens is not in the part in front. -/
theorem fst_sections_append_of_mem {opens : Text → Bool} {before : List Text} {line : Text}
    (hmem : line ∈ before) (hopens : opens line = true) (after : List Text) :
    (sections opens (before ++ after)).1 = (sections opens before).1 := by
  induction before with
  | nil => simp at hmem
  | cons first before ih =>
    rw [List.cons_append]
    cases h : opens first with
    | true => rw [sections_head h, sections_head h]
    | false =>
      have hne : line ≠ first := by
        rintro rfl
        simp [h] at hopens
      rw [sections_line h, sections_line h, ih ((List.mem_cons.1 hmem).resolve_left hne)]

/-- A header in front is the open device unless a later one is. -/
theorem openDevice_header {first : Text} (h : isBlockHeader (trim first) = true)
    (before : List Text) :
    openDevice (first :: before) = (openDevice before).or (some (lastToken first)) := by
  simp only [openDevice, List.filter_cons, h, if_true, List.getLast?_cons]
  cases (before.filter fun line => isBlockHeader (trim line)).getLast? <;> rfl

/-- A line in front that is no header opens nothing. -/
theorem openDevice_line {first : Text} (h : isBlockHeader (trim first) = false)
    (before : List Text) : openDevice (first :: before) = openDevice before := by
  simp [openDevice, h]

/-- If no block is open after some lines, none of them opens one. -/
theorem not_isBlockHeader_of_openDevice {before : List Text} (h : openDevice before = none) :
    ∀ line ∈ before, isBlockHeader (trim line) = false := by
  rw [openDevice, Option.map_eq_none_iff, List.getLast?_eq_none_iff, List.filter_eq_nil_iff] at h
  exact fun line hline => by simpa using h line hline

/-- The blocks of a listing have the same partitions with a line and without it, if the line opens
no block and says nothing in the block that is open there. -/
theorem blocksOf_insert {rule : NamingRule} {raw : Text} {before after : List Text}
    (hraw : isBlockHeader (trim raw) = false)
    (h : ∀ device, openDevice before = some device →
      SaysNothing rule device (trim raw) (sections isBlockHeader (after.map trim)).1) :
    List.Forall₂ (SamePartitions rule) (blocksOf (before ++ raw :: after))
      (blocksOf (before ++ after)) := by
  induction before with
  | nil =>
    rw [List.nil_append, List.nil_append, blocksOf_line hraw]
    exact List.forall₂_same.2 fun b _ => .refl rule b
  | cons first before ih =>
    rw [List.cons_append, List.cons_append]
    cases hfirst : isBlockHeader (trim first) with
    | false =>
      rw [openDevice_line hfirst] at h
      rw [blocksOf_line hfirst, blocksOf_line hfirst]
      exact ih h
    | true =>
      rw [openDevice_header hfirst] at h
      rw [blocksOf_header hfirst, blocksOf_header hfirst]
      refine .cons ⟨rfl, fun mounts => ?_⟩ (ih fun device hdevice => h device (by simp [hdevice]))
      -- the line stands in the block of `first`, or behind it in another one
      cases hopen : openDevice before with
      | none =>
        have hlead : ∀ line ∈ before.map trim, isBlockHeader line = false := by
          simpa using not_isBlockHeader_of_openDevice hopen
        rw [Block.partitions, Block.partitions, List.map_append, List.map_append, List.map_cons,
          sections_lead_append hlead, sections_lead_append hlead, sections_line hraw]
        exact (described_insert (h _ (by simp [hopen])) mounts).2
      | some device =>
        obtain ⟨line, hline, hopens⟩ : ∃ line ∈ before.map trim, isBlockHeader line = true := by
          rw [openDevice, Option.map_eq_some_iff] at hopen
          obtain ⟨line, hline, -⟩ := hopen
          obtain ⟨hmem, hopens⟩ := List.mem_filter.1 (List.mem_of_getLast? hline)
          exact ⟨trim line, List.mem_map_of_mem hmem, hopens⟩
        rw [List.map_append, List.map_append, fst_sections_append_of_mem hline hopens,
          fst_sections_append_of_mem hline hopens]

/-- Blocks with the same partitions do the same to a session. -/
theorem readBlocks_congr {rule : NamingRule} {blocks others : List Block}
    (h : List.Forall₂ (SamePartitions rule) blocks others) (lookup : Option (Text → Answer))
    (s : Session) : readBlocks rule lookup blocks s = readBlocks rule lookup others s := by
  induction h generalizing s with
  | nil => rfl
  | @cons b other rest more hb hrest ih =>
    have hblock : readBlock rule lookup b s = readBlock rule lookup other s := by
      rw [readBlock, readBlock, hb.1, hb.2]
    rw [readBlocks, readBlocks, hblock]
    exact congrArg _ (funext ih)

/-- A line that opens no block and says nothing where it stands makes a difference at most to the
counts. -/
theorem readPartitionGeometry_insert {rule : NamingRule} {raw : Text} {before after : List Text}
    (hraw : isBlockHeader (trim raw) = false)
    (h : ∀ device, openDevice before = some device →
      SaysNothing rule device (trim raw) (sections isBlockHeader (after.map trim)).1)
    (lookup : Option (Text → Answer)) {s t : Session} (hst : s.Alike t) :
    Agrees (readPartitionGeometry rule lookup (before ++ raw :: after) s)
      (readPartitionGeometry rule lookup (before ++ after) t) := by
  have hwith := readPartitionGeometry_agrees rule lookup (before ++ raw :: after) s
  have hwithout := readPartitionGeometry_agrees rule lookup (before ++ after) t
  rw [readBlocks_congr (blocksOf_insert hraw h)] at hwith
  refine (hwith.trans (readBlocks_alike hst rule lookup _)).trans ?_
  exact ⟨hwithout.1.symm, hwithout.2.symm⟩

end StorageInventory.Pass
