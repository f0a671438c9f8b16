import Mathlib.Tactic
import StorageInventory.Pass.Rows
import StorageInventory.Proofs.Text.Words

/-!
# The rows of a mount table

A row reads, once it is trimmed, as a device path, the word `on` between single spaces, and a mount
point, which ends the row or is followed by a space.  `IsMountRow` says so without the cuts that the
pass makes, and `readMountRow_eq_some_iff` that the cuts find the same partition and mount point.
-/

namespace StorageInventory.Pass

open Text

/-- The row says that the partition is mounted there. -/
def IsMountRow (row partition mountPoint : Text) : Prop :=
  IsWord partition ∧ IsWord mountPoint ∧
    ∃ tail, trim row = devicePrefix ++ (partition ++ (mountedOn ++ (mountPoint ++ tail))) ∧
      (tail = [] ∨ ∃ options, tail = ' ' :: options ∧ '\n' ∉ options)

/-- The row says that something is mounted. -/
def IsMounting (row : Text) : Prop := ∃ partition mountPoint, IsMountRow row partition mountPoint

/-- What follows the beginning of a text is the rest of it. -/
theorem afterPrefix?_append (lead rest : Text) : afterPrefix? lead (lead ++ rest) = some rest := by
  induction lead with
  | nil => cases rest <;> rfl
  | cons c lead ih => rw [List.cons_append, afterPrefix?, if_pos rfl, ih]

/-- A text has what follows a beginning exactly if it begins so. -/
theorem afterPrefix?_eq_some_iff {lead text rest : Text} :
    afterPrefix? lead text = some rest ↔ text = lead ++ rest := by
  constructor
  · intro h
    induction lead generalizing text with
    | nil => simpa [afterPrefix?] using h
    | cons c lead ih =>
      cases text with
      | nil => simp [afterPrefix?] at h
      | cons d text =>
        rw [afterPrefix?] at h
        split_ifs at h with hc
        rw [hc, ih h, List.cons_append]
  · rintro rfl
    exact afterPrefix?_append lead rest

/-- The longest beginning without blanks, and the rest, which begins with a blank. -/
theorem spanWord_eq_iff {text word rest : Text} :
    spanWord text = (word, rest) ↔
      text = word ++ rest ∧ (∀ c ∈ word, isBlank c = false) ∧
        ∀ c ∈ rest.head?, isBlank c = true := by
  rw [spanWord, List.span_eq_takeWhile_dropWhile, Prod.mk.injEq]
  constructor
  · rintro ⟨rfl, rfl⟩
    refine ⟨List.takeWhile_append_dropWhile.symm, fun c hc => ?_, fun c hc => ?_⟩
    · simpa using List.mem_takeWhile_imp hc
    · simpa [Option.mem_def.1 hc] using List.head?_dropWhile_not (fun c => !isBlank c) text
  · rintro ⟨rfl, hword, hrest⟩
    have hkept : ∀ c ∈ word, (!isBlank c) = true := fun c hc => by simp [hword c hc]
    rw [List.takeWhile_append_of_pos hkept, List.dropWhile_append_of_pos hkept]
    cases rest with
    | nil => exact ⟨List.append_nil word, rfl⟩
    | cons c rest =>
      have hblank : isBlank c = true := hrest c rfl
      rw [List.takeWhile_cons_of_neg (by simp [hblank]),
        List.dropWhile_cons_of_neg (by simp [hblank]), List.append_nil]
      exact ⟨rfl, rfl⟩

/-- A tail is nothing, or a space and options on the same line. -/
theorem isMountTail_iff {tail : Text} :
    isMountTail tail = true ↔ tail = [] ∨ ∃ options, tail = ' ' :: options ∧ '\n' ∉ options := by
  cases tail with
  | nil => simp [isMountTail]
  | cons c options =>
    have hall : options.all (· != '\n') = true ↔ '\n' ∉ options := by
      rw [List.all_eq_true]
      exact ⟨fun h hmem => by simpa using h _ hmem,
        fun h c hc => by simpa using ne_of_mem_of_not_mem hc h⟩
    simp [isMountTail, hall, -List.all_eq_true]

/-- A row is read for what it says. -/
theorem readMountRow_eq_some_iff {row partition mountPoint : Text} :
    readMountRow row = some (partition, mountPoint) ↔ IsMountRow row partition mountPoint := by
  constructor
  · intro h
    rw [readMountRow] at h
    split at h
    · simp at h
    · next body hbody =>
      dsimp only at h
      split at h
      · simp at h
      · simp at h
      · next place hplace hname =>
        split_ifs at h with hmount
        obtain ⟨rfl, rfl⟩ := Prod.mk.inj (Option.some.inj h)
        rw [Bool.and_eq_true, decide_eq_true_eq, isMountTail_iff] at hmount
        obtain ⟨hcut, hword, -⟩ := spanWord_eq_iff.1 (Prod.mk.eta (p := spanWord body)).symm
        obtain ⟨hcut', hword', -⟩ := spanWord_eq_iff.1 (Prod.mk.eta (p := spanWord place)).symm
        rw [afterPrefix?_eq_some_iff] at hbody hplace
        refine ⟨⟨hname, hword⟩, ⟨hmount.1, hword'⟩, (spanWord place).2, ?_, hmount.2⟩
        rw [hbody, ← hcut', ← hplace, ← hcut]
  · rintro ⟨hpartition, hmount, tail, hrow, htail⟩
    -- both words end at a blank, so the cuts are made where they end
    have hname : spanWord (partition ++ (mountedOn ++ (mountPoint ++ tail))) =
        (partition, mountedOn ++ (mountPoint ++ tail)) :=
      spanWord_eq_iff.2 ⟨rfl, hpartition.2, by rintro c ⟨⟩; exact isBlank_space⟩
    have hplace : spanWord (mountPoint ++ tail) = (mountPoint, tail) := by
      refine spanWord_eq_iff.2 ⟨rfl, hmount.2, fun c hc => ?_⟩
      rcases htail with rfl | ⟨options, rfl, -⟩
      · simp at hc
      · obtain rfl : ' ' = c := by simpa using hc
        exact isBlank_space
    rw [readMountRow, afterPrefix?_eq_some_iff.2 hrow]
    dsimp only
    rw [hname]
    dsimp only
    rw [afterPrefix?_append]
    obtain ⟨c, word, rfl⟩ := List.exists_cons_of_ne_nil hpartition.ne_nil
    dsimp only
    rw [hplace, if_pos (by simp [hmount.ne_nil, isMountTail_iff.2 htail])]

/-- A row is read exactly if it says that something is mounted. -/
theorem isSome_readMountRow_iff {row : Text} :
    (readMountRow row).isSome = true ↔ IsMounting row := by
  rw [Option.isSome_iff_exists, Prod.exists]
  exact exists_congr fun _ => exists_congr fun _ => readMountRow_eq_some_iff

instance (row : Text) : Decidable (IsMounting row) := decidable_of_iff _ isSome_readMountRow_iff

end StorageInventory.Pass
