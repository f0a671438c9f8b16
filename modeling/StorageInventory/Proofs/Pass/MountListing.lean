import Mathlib.Tactic
import StorageInventory.Proofs.Pass.DiskEdits
import StorageInventory.Proofs.Pass.PassAmounts

/-!
# What a mount table is read into

A row has at most one layout: the partition and the mount point end at the first blank behind them,
and the tail is what is left.  The rows that have one are read, each for its partition and mount
point, and of several rows for a partition the last one stays.  The others are counted as skipped.

* `IsMountRow.existsUnique` — the layout of a row is unique,
* `get?_mountsOf_eq_some_iff` — the table maps a partition to the mount point of its last row,
* `readMountTable_accepts` — the whole pass, from any session.

The table is built row by row from the front while the last row counts, so the induction takes rows
off the end (`isLastRow_concat`, `get?_mountsOf_concat`).
-/

namespace StorageInventory.Pass

open Diagnostics Table Text

/-! ## Layouts -/

/-- The row, once it is trimmed, is laid out as a device, the word `on` and a mount point, and a
tail that is empty or begins with a space. -/
structure MountLayout (row partition mountPoint tail : Text) : Prop where
  partitionWord : IsWord partition
  mountWord : IsWord mountPoint
  text : trim row = devicePrefix ++ (partition ++ (mountedOn ++ (mountPoint ++ tail)))
  tailForm : tail = [] ∨ ∃ options, tail = ' ' :: options ∧ '\n' ∉ options

/-- A row that says something is mounted is laid out with some tail. -/
theorem isMountRow_iff_layout {row partition mountPoint : Text} :
    IsMountRow row partition mountPoint ↔ ∃ tail, MountLayout row partition mountPoint tail := by
  constructor
  · rintro ⟨hpartition, hmount, tail, htext, htail⟩
    exact ⟨tail, hpartition, hmount, htext, htail⟩
  · rintro ⟨tail, h⟩
    exact ⟨h.partitionWord, h.mountWord, tail, h.text, h.tailForm⟩

/-- A row is read exactly if it has a layout, and then it has one only. -/
theorem isSome_readMountRow_iff_existsUnique {row : Text} :
    (readMountRow row).isSome = true ↔
      ∃! parts : Text × Text × Text, MountLayout row parts.1 parts.2.1 parts.2.2 := by
  rw [isSome_readMountRow_iff]
  constructor
  · rintro ⟨partition, mountPoint, hrow⟩
    obtain ⟨tail, hlayout⟩ := isMountRow_iff_layout.1 hrow
    refine ⟨(partition, mountPoint, tail), hlayout, ?_⟩
    rintro ⟨partition', mountPoint', tail'⟩ hlayout'
    -- the row is read for both layouts, and then the tails are the same rest
    have hread := readMountRow_eq_some_iff.2 hrow
    rw [readMountRow_eq_some_iff.2 (isMountRow_iff_layout.2 ⟨tail', hlayout'⟩), Option.some.injEq,
      Prod.mk.injEq] at hread
    obtain ⟨rfl, rfl⟩ := hread
    have htext := hlayout'.text.symm.trans hlayout.text
    simp only [List.append_cancel_left_eq] at htext
    rw [htext]
  · rintro ⟨⟨partition, mountPoint, tail⟩, hlayout, -⟩
    exact ⟨partition, mountPoint, isMountRow_iff_layout.2 ⟨tail, hlayout⟩⟩

/-! ## The table -/

/-- Of the rows for the partition, the last one has the mount point. -/
def IsLastRow (lines : List Text) (partition mountPoint : Text) : Prop :=
  ∃ before row after, lines = before ++ row :: after ∧ IsMountRow row partition mountPoint ∧
    ∀ other ∈ after, ∀ m, ¬ IsMountRow other partition m

/-- There is no last row where there is none. -/
theorem not_isLastRow_nil {partition mountPoint : Text} : ¬ IsLastRow [] partition mountPoint := by
  rintro ⟨before, row, after, hlines, -⟩
  simp at hlines

/-- With a row more at the end, it is that row, or one before it if that is of another partition. -/
theorem isLastRow_concat {lines : List Text} {row partition mountPoint : Text} :
    IsLastRow (lines ++ [row]) partition mountPoint ↔
      IsMountRow row partition mountPoint ∨
        (∀ m, ¬ IsMountRow row partition m) ∧ IsLastRow lines partition mountPoint := by
  constructor
  · rintro ⟨before, found, after, hlines, hfound, hafter⟩
    -- the row that was added is either the one that counts or comes after it
    rcases List.eq_nil_or_concat after with rfl | ⟨after, last, rfl⟩
    · obtain ⟨-, hrow⟩ := List.append_inj' hlines rfl
      obtain rfl : row = found := by simpa using hrow
      exact .inl hfound
    · rw [List.concat_eq_append] at hlines hafter
      have hlines : lines ++ [row] = (before ++ found :: after) ++ [last] := by simpa using hlines
      obtain ⟨rfl, hlast⟩ := List.append_inj' hlines rfl
      obtain rfl : row = last := by simpa using hlast
      exact .inr ⟨hafter row (by simp), before, found, after, rfl, hfound,
        fun other hother => hafter other (List.mem_append_left _ hother)⟩
  · rintro (hrow | ⟨hrow, before, found, after, rfl, hfound, hafter⟩)
    · exact ⟨lines, row, [], rfl, hrow, by simp⟩
    · refine ⟨before, found, after ++ [row], by simp, hfound, fun other hother => ?_⟩
      rcases List.mem_append.1 hother with hother | hother
      · exact hafter other hother
      · obtain rfl : other = row := by simpa using hother
        exact hrow

/-- A further row puts its mount point over those before it. -/
theorem mountsOf_concat (lines : List Text) (row : Text) :
    mountsOf (lines ++ [row]) = putMounts (readMountRow row).toList (mountsOf lines) := by
  rw [mountsOf, List.filterMap_append, putMounts, List.foldl_append, mountsOf, putMounts]
  cases h : readMountRow row <;> simp [h, putMounts]

/-- The table maps a partition to the mount point of its last row. -/
theorem get?_mountsOf_eq_some_iff {lines : List Text} {partition mountPoint : Text} :
    (mountsOf lines).get? partition = some mountPoint ↔
      IsLastRow lines partition mountPoint := by
  induction lines using List.reverseRecOn with
  | nil => exact iff_of_false (by simp [mountsOf, putMounts]) not_isLastRow_nil
  | append_singleton lines row ih =>
    have hread : ∀ m, readMountRow row = some (partition, m) ↔ IsMountRow row partition m :=
      fun _ => readMountRow_eq_some_iff
    rw [mountsOf_concat, isLastRow_concat, ← ih]
    simp only [← hread]
    cases hrow : readMountRow row with
    | none => simp [putMounts]
    | some found =>
      obtain ⟨name, place⟩ := found
      simp only [Option.toList_some, putMounts, List.foldl_cons, List.foldl_nil, get?_put,
        Option.some.injEq, Prod.mk.injEq]
      by_cases hname : partition = name
      · simp [hname]
      · simp [hname, Ne.symm hname]

/-! ## The counts -/

/-- A pass counts a skipped row for each one without a layout. -/
theorem count_skipped_readMountTable (lines : List Text) (s : Session) :
    (readMountTable lines s).diagnostics.count Source.mounts EventKind.skipped =
      s.diagnostics.count Source.mounts EventKind.skipped +
        lines.countP fun row => ¬ IsMounting row := by
  have hdistinct : ((mountTallies lines).map fun t => (t.source, t.kind)).Nodup := by
    simp only [mountTallies, List.map_cons, List.map_nil]
    decide
  have hmem : ⟨Source.mounts, EventKind.skipped, lines.countP fun row => ¬ IsMounting row⟩ ∈
      mountTallies lines := by simp [mountTallies]
  rw [readMountTable_diagnostics, count_recordAll, (amounts_mountTable lines).sum]
  exact congrArg _ (tallied_of_mem hdistinct hmem)

/-! ## The pass -/

/-- Exactly the rows with a layout are read, which is unique, each for what stands in its layout.
The table has the last row of each partition and nothing else, whatever it was before, and the rows
without a layout are counted as skipped. -/
theorem readMountTable_accepts (lines : List Text) (s : Session) :
    (∀ row partition mountPoint, readMountRow row = some (partition, mountPoint) ↔
      ∃ tail, MountLayout row partition mountPoint tail) ∧
    (∀ row, (readMountRow row).isSome = true ↔
      ∃! parts : Text × Text × Text, MountLayout row parts.1 parts.2.1 parts.2.2) ∧
    (∀ partition mountPoint, (readMountTable lines s).mounts.get? partition = some mountPoint ↔
      IsLastRow lines partition mountPoint) ∧
    (keys (readMountTable lines s).mounts).Nodup ∧
    (readMountTable lines s).diagnostics.count Source.mounts EventKind.skipped =
      s.diagnostics.count Source.mounts EventKind.skipped +
        lines.countP fun row => ¬ IsMounting row := by
  have hmounts : (readMountTable lines s).mounts = mountsOf lines :=
    (readMountTable_sameStore lines s).mounts
  refine ⟨fun row partition mountPoint => ?_, fun row => isSome_readMountRow_iff_existsUnique,
    fun partition mountPoint => ?_, ?_, count_skipped_readMountTable lines s⟩
  · rw [readMountRow_eq_some_iff, isMountRow_iff_layout]
  · rw [hmounts, get?_mountsOf_eq_some_iff]
  · rw [hmounts]
    exact nodup_keys_foldl_put Prod.fst Prod.snd _ List.nodup_nil

end StorageInventory.Pass
