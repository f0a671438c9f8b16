import Mathlib.Tactic
import StorageInventory.Session

/-!
# Edits of disks

What a pass does to the disks found so far is a list of edits: each names a device, which becomes
known if it was not, and changes the record of that device alone.  The passes are compared through
their edits.

* `Table.get?_foldl_put` — a table answers with the last value that a key was given,
* `get?_applyEdits` — a device ends with its own edits, in order, and the others do not matter,
* `mem_keys_applyEdits` — the devices known afterwards are those known before and those edited,
* `Stored.applyEdits` — records stay filed under their own names, each name once.
-/

namespace StorageInventory

/-- No element has a key that is not among the keys. -/
theorem filter_key_eq_nil {α : Type} {xs : List α} {key : α → Text} {k : Text}
    (h : k ∉ xs.map key) : xs.filter (key · = k) = [] := by
  rw [List.filter_eq_nil_iff]
  intro x hx heq
  exact h (List.mem_map.2 ⟨x, hx, of_decide_eq_true heq⟩)

/-! ## Tables without repeated keys -/

namespace Table

variable {α : Type}

/-- An entry of a table without repeated keys is found under its key. -/
theorem get?_of_mem {table : Table α} (h : table.keys.Nodup) {key : Text} {a : α}
    (hmem : (key, a) ∈ table) : get? table key = some a := by
  induction table with
  | nil => simp at hmem
  | cons entry rest ih =>
    obtain ⟨k, v⟩ := entry
    rw [keys, List.map_cons, List.nodup_cons] at h
    rcases List.mem_cons.1 hmem with heq | hmem
    · obtain ⟨rfl, rfl⟩ := Prod.mk.inj heq
      simp [get?]
    · have hne : k ≠ key := by
        rintro rfl
        exact h.1 (List.mem_map.2 ⟨_, hmem, rfl⟩)
      rw [get?, if_neg hne, ih h.2 hmem]

/-- What is found under a key is an entry of the table. -/
theorem mem_of_get? {table : Table α} {key : Text} {a : α} (h : get? table key = some a) :
    (key, a) ∈ table := by
  induction table with
  | nil => simp at h
  | cons entry rest ih =>
    obtain ⟨k, v⟩ := entry
    rw [get?] at h
    split at h
    · next hk => simp_all
    · exact List.mem_cons_of_mem _ (ih h)

/-- Giving a key the value that it has changes nothing. -/
theorem put_get? {table : Table α} {key : Text} {a : α} (h : get? table key = some a) :
    put table key a = table := by
  induction table with
  | nil => simp at h
  | cons entry rest ih =>
    obtain ⟨k, v⟩ := entry
    rw [get?] at h
    by_cases hk : k = key
    · rw [if_pos hk, Option.some.injEq] at h
      simp [put, hk, h]
    · rw [if_neg hk] at h
      simp [put, hk, ih h]

/-- Of two values given to a key in turn, the second counts. -/
theorem put_put (table : Table α) (key : Text) (a b : α) :
    put (put table key a) key b = put table key b := by
  induction table with
  | nil => simp [put]
  | cons entry rest ih =>
    by_cases hk : entry.1 = key
    · simp [put, hk]
    · simp [put, hk, ih]

/-- A table is told by its keys and what it answers for them. -/
theorem map_get?_keys {table : Table α} (h : table.keys.Nodup) {f : Text → α}
    (hf : ∀ key ∈ table.keys, get? table key = some (f key)) :
    table.keys.map (fun key => (key, f key)) = table := by
  rw [keys, List.map_map]
  have hself : ∀ entry ∈ table, ((fun key => (key, f key)) ∘ Prod.fst) entry = entry := by
    intro entry hentry
    have hget := get?_of_mem h (show (entry.1, entry.2) ∈ table from hentry)
    rw [hf entry.1 (List.mem_map_of_mem hentry), Option.some.injEq] at hget
    rw [Function.comp_apply, hget]
  rw [List.map_congr_left hself, List.map_id']

/-- Of several values given to a key, the last one counts. -/
theorem get?_foldl_put {β : Type} (key : β → Text) (value : β → α) (xs : List β) (table : Table α)
    (k : Text) :
    get? (xs.foldl (fun table x => put table (key x) (value x)) table) k =
      ((xs.filter (key · = k)).getLast?.map value).or (get? table k) := by
  induction xs generalizing table with
  | nil => simp
  | cons x xs ih =>
    rw [List.foldl_cons, ih, get?_put]
    by_cases hk : key x = k
    · subst hk
      rw [List.filter_cons_of_pos (by simp), if_pos rfl, List.getLast?_cons]
      cases (xs.filter (key · = key x)).getLast? <;> simp
    · rw [List.filter_cons_of_neg (by simpa using hk), if_neg (Ne.symm hk)]

/-- Putting any number of values repeats no key. -/
theorem nodup_keys_foldl_put {β : Type} (key : β → Text) (value : β → α) (xs : List β)
    {table : Table α} (h : table.keys.Nodup) :
    (keys (xs.foldl (fun table x => put table (key x) (value x)) table)).Nodup := by
  induction xs generalizing table with
  | nil => exact h
  | cons x xs ih => exact ih (nodup_keys_put h (key x) (value x))

/-- A key is there after putting if it is the one that was put or was there before. -/
theorem mem_keys_put {table : Table α} {key other : Text} {a : α} :
    other ∈ (table.put key a).keys ↔ other = key ∨ other ∈ table.keys := by
  rw [keys_put]
  split
  · next h => exact ⟨.inr, fun ho => ho.elim (fun heq => heq ▸ h) id⟩
  · simp [or_comm]

end Table

/-! ## Edits -/

open Table

/-- A change to the record of a device. -/
structure DiskEdit where
  device : Text
  change : Disk → Disk

/-- The record of a device, an empty one if there is none. -/
def diskOf (disks : Table Disk) (device : Text) : Disk :=
  (disks.get? device).getD { name := device }

/-- The disk of a device is what is found under it. -/
theorem diskOf_of_get? {disks : Table Disk} {device : Text} {disk : Disk}
    (h : disks.get? device = some disk) : diskOf disks device = disk := by
  rw [diskOf, h, Option.getD_some]

/-- A device that is known has its disk in the table. -/
theorem get?_of_mem_keys {disks : Table Disk} {device : Text} (h : device ∈ disks.keys) :
    disks.get? device = some (diskOf disks device) := by
  cases hget : disks.get? device with
  | none => exact absurd h ((get?_eq_none_iff disks device).1 hget)
  | some disk => rw [diskOf_of_get? hget]

/-- The disks after an edit. -/
def DiskEdit.apply (disks : Table Disk) (e : DiskEdit) : Table Disk :=
  disks.put e.device (e.change (diskOf disks e.device))

/-- The disks after some edits. -/
def applyEdits (edits : List DiskEdit) (disks : Table Disk) : Table Disk :=
  edits.foldl DiskEdit.apply disks

/-- What the edits of one device make of its record. -/
def editsOf (edits : List DiskEdit) (device : Text) (disk : Disk) : Disk :=
  (edits.filter (·.device = device)).foldl (fun d e => e.change d) disk

/-- The edit that only makes a device known. -/
def registration (device : Text) : DiskEdit := ⟨device, id⟩

@[simp] theorem applyEdits_nil (disks : Table Disk) : applyEdits [] disks = disks := rfl

@[simp] theorem applyEdits_cons (e : DiskEdit) (edits : List DiskEdit) (disks : Table Disk) :
    applyEdits (e :: edits) disks = applyEdits edits (e.apply disks) := rfl

/-- Two lists of edits are applied one after the other. -/
theorem applyEdits_append (a b : List DiskEdit) (disks : Table Disk) :
    applyEdits (a ++ b) disks = applyEdits b (applyEdits a disks) := by
  simp [applyEdits]

/-- Two lists of edits change a disk one after the other. -/
theorem editsOf_append (a b : List DiskEdit) (device : Text) (disk : Disk) :
    editsOf (a ++ b) device disk = editsOf b device (editsOf a device disk) := by
  simp [editsOf]

/-- The first edit changes its own disk before the others do. -/
theorem editsOf_cons_self (e : DiskEdit) (edits : List DiskEdit) (disk : Disk) :
    editsOf (e :: edits) e.device disk = editsOf edits e.device (e.change disk) := by
  simp [editsOf]

/-- The first edit leaves the disks of other devices. -/
theorem editsOf_cons_of_ne {e : DiskEdit} {device : Text} (h : e.device ≠ device)
    (edits : List DiskEdit) (disk : Disk) :
    editsOf (e :: edits) device disk = editsOf edits device disk := by
  simp [editsOf, h]

/-- Edits of other devices leave a disk. -/
theorem editsOf_of_not_mem {edits : List DiskEdit} {device : Text}
    (h : device ∉ edits.map DiskEdit.device) (disk : Disk) : editsOf edits device disk = disk := by
  rw [editsOf, filter_key_eq_nil h, List.foldl_nil]

/-- An edit changes the disk of its device, which is new if it was not known, and no other. -/
theorem get?_apply (disks : Table Disk) (e : DiskEdit) (device : Text) :
    get? (e.apply disks) device =
      if device = e.device then some (e.change (diskOf disks device)) else get? disks device := by
  rw [DiskEdit.apply, get?_put]
  split
  · next h => rw [h]
  · rfl

/-- A device ends with its own edits, applied in order to its record. -/
theorem get?_applyEdits (edits : List DiskEdit) (disks : Table Disk) (device : Text) :
    get? (applyEdits edits disks) device =
      if device ∈ edits.map DiskEdit.device then
        some (editsOf edits device (diskOf disks device))
      else get? disks device := by
  induction edits generalizing disks with
  | nil => simp
  | cons e edits ih =>
    rw [applyEdits_cons, ih, List.map_cons, diskOf, get?_apply]
    by_cases hd : device = e.device
    · -- later edits of the device, if there are any, start from what `e` left
      subst hd
      simp only [List.mem_cons, true_or, if_true, Option.getD_some, editsOf_cons_self]
      split
      · rfl
      · next hnot => rw [editsOf_of_not_mem hnot]
    · rw [if_neg hd, editsOf_cons_of_ne (Ne.symm hd), ← diskOf]
      simp [hd]

/-- The devices known after some edits are those known before and those edited. -/
theorem mem_keys_applyEdits {edits : List DiskEdit} {disks : Table Disk} {device : Text} :
    device ∈ keys (applyEdits edits disks) ↔
      device ∈ edits.map DiskEdit.device ∨ device ∈ keys disks := by
  induction edits generalizing disks with
  | nil => simp
  | cons e edits ih =>
    rw [applyEdits_cons, ih, DiskEdit.apply, mem_keys_put, List.map_cons, List.mem_cons]
    tauto

/-- After edits, the disk of a device is what they make of it. -/
theorem diskOf_applyEdits (edits : List DiskEdit) (disks : Table Disk) (device : Text) :
    diskOf (applyEdits edits disks) device = editsOf edits device (diskOf disks device) := by
  rw [diskOf, get?_applyEdits]
  split
  · rfl
  · next h => rw [editsOf_of_not_mem h, diskOf]

/-- Registering a device changes the disk of none. -/
theorem diskOf_registration (disks : Table Disk) (device other : Text) :
    diskOf ((registration device).apply disks) other = diskOf disks other := by
  rw [diskOf, get?_apply]
  split <;> rfl

/-! ## Records under their own names -/

/-- Every record is filed under its own name, and every name is filed once. -/
structure Stored (disks : Table Disk) : Prop where
  nodup : (keys disks).Nodup
  name_eq : ∀ entry ∈ disks, entry.2.name = entry.1

theorem Stored.nil : Stored [] := ⟨by simp [keys], by simp⟩

/-- What is found under a device has its name. -/
theorem Stored.name_of_get? {disks : Table Disk} (h : Stored disks) {device : Text} {disk : Disk}
    (hget : get? disks device = some disk) : disk.name = device :=
  h.name_eq _ (mem_of_get? hget)

/-- The disk of a device has its name, known or not. -/
theorem Stored.name_diskOf {disks : Table Disk} (h : Stored disks) (device : Text) :
    (diskOf disks device).name = device := by
  rw [diskOf]
  cases hget : get? disks device with
  | none => rfl
  | some disk => exact h.name_of_get? hget

/-- A record that is put under its own name is stored. -/
theorem Stored.put {disks : Table Disk} (h : Stored disks) {device : Text} {disk : Disk}
    (hname : disk.name = device) : Stored (disks.put device disk) := by
  refine ⟨nodup_keys_put h.nodup _ _, ?_⟩
  intro entry hentry
  have hget := get?_of_mem (nodup_keys_put h.nodup device disk) hentry
  rw [get?_put] at hget
  split at hget
  · next heq => rw [heq, ← hname, ← Option.some.inj hget]
  · exact h.name_eq _ (mem_of_get? hget)

/-- An edit keeps the name of the record. -/
def DiskEdit.KeepsName (e : DiskEdit) : Prop :=
  ∀ d : Disk, d.name = e.device → (e.change d).name = e.device

/-- Edits that leave a record under its name leave all stored. -/
theorem Stored.applyEdits {edits : List DiskEdit} (hedits : ∀ e ∈ edits, e.KeepsName)
    {disks : Table Disk} (h : Stored disks) : Stored (applyEdits edits disks) := by
  induction edits generalizing disks with
  | nil => exact h
  | cons e edits ih =>
    rw [applyEdits_cons]
    refine ih (fun e' he' => hedits e' (List.mem_cons_of_mem _ he')) (h.put ?_)
    exact hedits e List.mem_cons_self _ (h.name_diskOf e.device)

/-- The records are told by the keys. -/
theorem Stored.values_eq {disks : Table Disk} (h : Stored disks) :
    values disks = (keys disks).map (diskOf disks) := by
  conv_lhs => rw [← map_get?_keys h.nodup fun _ => get?_of_mem_keys]
  rw [values, List.map_map]
  rfl

/-- The names of the records are the keys. -/
theorem Stored.map_name_values {disks : Table Disk} (h : Stored disks) :
    (values disks).map Disk.name = keys disks := by
  rw [values, keys, List.map_map]
  exact List.map_congr_left h.name_eq

/-! ## What sessions do to their disks -/

namespace Session

/-- A session takes a device for new exactly where its disks do. -/
theorem diskOrNew_eq (s : Session) (device : Text) : s.diskOrNew device = diskOf s.disks device :=
  rfl

/-- Updating a disk is an edit of it. -/
theorem disks_updateDisk (s : Session) (device : Text) (change : Disk → Disk) :
    (s.updateDisk device change).disks = DiskEdit.apply s.disks ⟨device, change⟩ := rfl

/-- An updated disk is what the update makes of it. -/
theorem diskOf_updateDisk (s : Session) (device : Text) (change : Disk → Disk) :
    diskOf (s.updateDisk device change).disks device = change (diskOf s.disks device) := by
  rw [disks_updateDisk, diskOf, get?_apply, if_pos rfl, Option.getD_some]

/-- Of two changes to a disk, the second starts from what the first made of it. -/
theorem updateDisk_updateDisk (s : Session) (device : Text) (f g : Disk → Disk) :
    (s.updateDisk device f).updateDisk device g = s.updateDisk device fun d => g (f d) := by
  rw [updateDisk, diskOrNew_eq, diskOf_updateDisk, updateDisk, updateDisk, diskOrNew_eq,
    Table.put_put]

/-- Registering a device is an edit. -/
theorem register_eq (s : Session) (device : Text) :
    s.register device = { s with disks := (registration device).apply s.disks } := by
  rw [register, DiskEdit.apply, registration, diskOf]
  cases hget : s.disks.get? device with
  | none => simp [has, hget]
  | some disk => simp [has, hget, put_get? hget]

/-- A device that is going to be changed need not be registered before. -/
theorem updateDisk_register (s : Session) (device : Text) (change : Disk → Disk) :
    (s.register device).updateDisk device change = s.updateDisk device change := by
  rw [register_eq, updateDisk, updateDisk, diskOrNew_eq, diskOrNew_eq, diskOf_registration,
    DiskEdit.apply, registration, put_put]

end Session

end StorageInventory
