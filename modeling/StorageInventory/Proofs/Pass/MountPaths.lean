import Mathlib.Tactic
import StorageInventory.Proofs.Pass.DiskEdits
import StorageInventory.Proofs.Pass.MountRows

/-!
# Where a partition is taken to be mounted

A row names a partition, the path where it is mounted, and options in brackets.  The path may have
blanks in it, which the row does not mark.

* `readMountRow_mountRow` — a path is read up to its first blank, if that is a space,
* `get?_mountsOf` — the last row of a partition that is read says where it is mounted,
* `get?_mountsOf_eq_path_iff` — which is the path of the row exactly if the path has no blanks.
-/

namespace StorageInventory.Pass

open Table Text

/-- The row of a partition that is mounted at a path. -/
def mountRow (name path options : Text) : Text :=
  devicePrefix ++ (name ++ (mountedOn ++ (path ++ ' ' :: '(' :: (options ++ [')']))))

/-- What is read of a path, if anything is. -/
def readPath (path : Text) : Option Text :=
  if (spanWord path).2.head?.all (· = ' ') then some (spanWord path).1 else none

variable {name path options : Text}

/-! ## Rows -/

/-- A mount row has no blanks around it. -/
theorem trim_mountRow (name path options : Text) :
    trim (mountRow name path options) = mountRow name path options := by
  have hdevice : IsWord devicePrefix := by decide
  -- the row ends in a bracket, so that trimming takes nothing off
  have hend : name ++ (mountedOn ++ (path ++ ' ' :: '(' :: (options ++ [')']))) =
      (name ++ mountedOn ++ path ++ ' ' :: '(' :: options) ++ [')'] := by simp
  rw [mountRow, trim_label_append hdevice, hend, trimEnd_eq_self_of_last (by decide)]

/-- Behind the partition, a row is read up to the first blank. -/
theorem readMountRow_of_layout {row place : Text} (hname : IsWord name)
    (hrow : trim row = devicePrefix ++ (name ++ (mountedOn ++ place))) :
    readMountRow row =
      if (spanWord place).1 ≠ [] && isMountTail (spanWord place).2 then
        some (name, (spanWord place).1)
      else none := by
  have hspan : spanWord (name ++ (mountedOn ++ place)) = (name, mountedOn ++ place) :=
    spanWord_eq_iff.2 ⟨rfl, hname.2, by rintro c ⟨⟩; exact isBlank_space⟩
  rw [readMountRow, afterPrefix?_eq_some_iff.2 hrow]
  dsimp only
  rw [hspan]
  dsimp only
  rw [afterPrefix?_append]
  obtain ⟨c, word, rfl⟩ := List.exists_cons_of_ne_nil hname.ne_nil
  rfl

/-- The path of a row is read up to its first blank, if that is a space.  If it is another blank the
row is not read. -/
theorem readMountRow_mountRow (hname : IsWord name) (hpath : path.head? = some '/')
    (hbreak : '\n' ∉ path) (hoptions : '\n' ∉ options) :
    readMountRow (mountRow name path options) = (readPath path).map (name, ·) := by
  obtain ⟨hcut, hword, hrest⟩ := spanWord_eq_iff.1 (Prod.mk.eta (p := spanWord path)).symm
  rw [readMountRow_of_layout hname (trim_mountRow name path options), readPath]
  generalize (spanWord path).1 = word at hcut hword ⊢
  generalize (spanWord path).2 = rest at hcut hrest ⊢
  have hspan : spanWord (path ++ ' ' :: '(' :: (options ++ [')'])) =
      (word, rest ++ ' ' :: '(' :: (options ++ [')'])) := by
    refine spanWord_eq_iff.2 ⟨by rw [hcut, List.append_assoc], hword, fun c hc => ?_⟩
    cases rest with
    | nil =>
      obtain rfl : ' ' = c := by simpa using hc
      exact isBlank_space
    | cons d rest => exact hrest c hc
  have hne : word ≠ [] := by
    rintro rfl
    -- the path would begin with a blank
    rw [hcut, List.nil_append] at hpath
    exact absurd (hrest '/' (by rw [hpath]; rfl)) (by decide)
  have htail : isMountTail (rest ++ ' ' :: '(' :: (options ++ [')'])) =
      rest.head?.all (· = ' ') := by
    rw [hcut, List.mem_append, not_or] at hbreak
    have hlines : ∀ text : Text, '\n' ∉ text → text.all (· != '\n') = true := fun text h =>
      List.all_eq_true.2 fun c hc => by simpa using ne_of_mem_of_not_mem hc h
    cases rest with
    | nil => simp [isMountTail, hlines options hoptions]
    | cons d rest =>
      have hrest' : '\n' ∉ rest := fun h => hbreak.2 (List.mem_cons_of_mem d h)
      simp [isMountTail, hlines options hoptions, hlines rest hrest']
  rw [hspan]
  simp only [htail, decide_not, hne, decide_false, Bool.not_false, Bool.true_and]
  split <;> rfl

/-- A path is read as it is exactly if there is no blank in it. -/
theorem readPath_eq_some_self_iff :
    readPath path = some path ↔ ∀ c ∈ path, isBlank c = false := by
  obtain ⟨hcut, hword, hrest⟩ := spanWord_eq_iff.1 (Prod.mk.eta (p := spanWord path)).symm
  rw [readPath]
  constructor
  · intro h
    split_ifs at h
    rw [← Option.some.inj h]
    exact hword
  · intro h
    have hspan : spanWord path = (path, []) :=
      spanWord_eq_iff.2 ⟨(List.append_nil path).symm, h, by simp⟩
    rw [hspan]
    rfl

/-! ## Tables -/

/-- The last row of a partition that is read says where it is mounted. -/
theorem get?_mountsOf {before after : List Text} {row : Text} {place : Option Text}
    (hrow : readMountRow row = place.map (name, ·))
    (hlast : ∀ other ∈ after, ∀ m, ¬ IsMountRow other name m) :
    (mountsOf (before ++ row :: after)).get? name = place.or ((mountsOf before).get? name) := by
  have hafter : (after.filterMap readMountRow).filter (·.1 = name) = [] := by
    rw [List.filter_eq_nil_iff]
    rintro ⟨partition, m⟩ hmem heq
    obtain ⟨other, hother, hread⟩ := List.mem_filterMap.1 hmem
    obtain rfl : partition = name := by simpa using heq
    exact hlast other hother m (readMountRow_eq_some_iff.1 hread)
  rw [mountsOf, get?_putMounts, mountsOf, get?_putMounts, List.filterMap_append,
    List.filterMap_cons, hrow]
  cases place with
  | none => simp [hafter]
  | some m => simp [hafter]

/-- Whatever the rows, no mount point has blanks. -/
theorem isWord_of_get?_mountsOf {lines : List Text} {m : Text}
    (h : (mountsOf lines).get? name = some m) : IsWord m := by
  rw [mountsOf, get?_putMounts, get?_nil, Option.or_none, Option.map_eq_some_iff] at h
  obtain ⟨⟨partition, m⟩, hlast, rfl⟩ := h
  have hmem := List.mem_of_mem_filter (List.mem_of_getLast? hlast)
  obtain ⟨row, -, hread⟩ := List.mem_filterMap.1 hmem
  exact (readMountRow_eq_some_iff.1 hread).2.1

/-- The row of a partition gives its path exactly if the path has no blanks. -/
theorem get?_mountsOf_eq_path_iff {before after : List Text} (hname : IsWord name)
    (hpath : path.head? = some '/') (hbreak : '\n' ∉ path) (hoptions : '\n' ∉ options)
    (hlast : ∀ other ∈ after, ∀ m, ¬ IsMountRow other name m) :
    (mountsOf (before ++ mountRow name path options :: after)).get? name = some path ↔
      ∀ c ∈ path, isBlank c = false := by
  constructor
  · intro h
    exact (isWord_of_get?_mountsOf h).2
  · intro h
    rw [get?_mountsOf (readMountRow_mountRow hname hpath hbreak hoptions) hlast,
      readPath_eq_some_self_iff.2 h, Option.some_or]

end StorageInventory.Pass
