import Mathlib.Tactic
import StorageInventory.Attach
import StorageInventory.Proofs.Name.Arrangement
import StorageInventory.Proofs.Store.Edits

/-!
# Merging partitions

A disk's partitions are merged by name: of several records with one name the last one counts, and
what is left stands in natural order.  `Settles records result` says this about the result alone.

* `mem_mergePartitions` — merging keeps the last record of each name,
* `sortByName_mergePartitions_iff` — merged and sorted, records settle,
* `Settles.unique` — records settle to one list only,
* `Settles.append_iff` — a list that has settled stands for the records it came from, so merging
  batch after batch is merging all of them at once.

`settle` computes the result, and `settle_eq_ok_iff` says so.
-/

namespace StorageInventory

open Name

/-- The last record with a name. -/
def lastNamed (records : List Partition) (name : Text) : Option Partition :=
  (records.filter (·.name = name)).getLast?

/-- The records settle to a list: it is in natural order, and holds the last record of each name. -/
def Settles (records result : List Partition) : Prop :=
  Arranged Partition.name result ∧ ∀ p, p ∈ result ↔ lastNamed records p.name = some p

/-! ## The last record of a name -/

@[simp] theorem lastNamed_nil (name : Text) : lastNamed [] name = none := rfl

/-- The later records are looked at first. -/
theorem lastNamed_append (a b : List Partition) (name : Text) :
    lastNamed (a ++ b) name = (lastNamed b name).or (lastNamed a name) := by
  rw [lastNamed, List.filter_append, List.getLast?_append, lastNamed, lastNamed]

/-- A first record is the last of its name unless there is a later one. -/
theorem lastNamed_cons (q : Partition) (rest : List Partition) (name : Text) :
    lastNamed (q :: rest) name =
      (lastNamed rest name).or (if q.name = name then some q else none) := by
  rw [← List.singleton_append, lastNamed_append]
  by_cases h : q.name = name <;> simp [lastNamed, h]

/-- The last record with a name is one of the records and has the name. -/
theorem name_of_lastNamed {records : List Partition} {name : Text} {p : Partition}
    (h : lastNamed records name = some p) : p ∈ records ∧ p.name = name := by
  have hmem := List.mem_of_getLast? h
  simpa using hmem

/-- A name has no last record exactly if no record has it. -/
theorem lastNamed_eq_none_iff {records : List Partition} {name : Text} :
    lastNamed records name = none ↔ ∀ p ∈ records, p.name ≠ name := by
  simp [lastNamed]

/-- Among records with distinct names, the last one of a name is the one of that name. -/
theorem lastNamed_eq_some_iff {records : List Partition}
    (hnd : (records.map Partition.name).Nodup) {name : Text} {p : Partition} :
    lastNamed records name = some p ↔ p ∈ records ∧ p.name = name := by
  refine ⟨name_of_lastNamed, ?_⟩
  rintro ⟨hmem, hname⟩
  cases hlast : lastNamed records name with
  | none => exact absurd hname (lastNamed_eq_none_iff.1 hlast p hmem)
  | some q =>
    obtain ⟨hq, hqname⟩ := name_of_lastNamed hlast
    rw [List.inj_on_of_nodup_map hnd hq hmem (hqname.trans hname.symm)]

/-! ## Merging -/

/-- File records by their names. -/
def fileByName (records : List Partition) (table : Table Partition) : Table Partition :=
  records.foldl (fun table p => Table.put table p.name p) table

/-- What is filed under a name is the last record with it. -/
theorem get?_fileByName_nil (records : List Partition) (name : Text) :
    Table.get? (fileByName records []) name = lastNamed records name := by
  have hget := Table.get?_foldl_put Partition.name id records [] name
  rwa [Option.map_id, id, Table.get?_nil, Option.or_none] at hget

/-- Records are filed once under every name. -/
theorem nodup_keys_fileByName_nil (records : List Partition) :
    (Table.keys (fileByName records [])).Nodup :=
  Table.nodup_keys_foldl_put Partition.name id records List.nodup_nil

/-- Merging files the old records and then the new ones. -/
theorem mergePartitions_eq (old new : List Partition) :
    mergePartitions old new = Table.values (fileByName (old ++ new) []) := rfl

/-- The names of the files are those of the records in them. -/
theorem keys_fileByName_nil (records : List Partition) :
    Table.keys (fileByName records []) =
      (Table.values (fileByName records [])).map Partition.name := by
  rw [Table.values, Table.keys, List.map_map]
  apply List.map_congr_left
  intro entry hentry
  have hget := Table.get?_of_mem (nodup_keys_fileByName_nil records)
    (show (entry.1, entry.2) ∈ _ from hentry)
  rw [get?_fileByName_nil] at hget
  exact (name_of_lastNamed hget).2.symm

/-- Merged records have distinct names. -/
theorem nodup_mergePartitions (old new : List Partition) :
    ((mergePartitions old new).map Partition.name).Nodup := by
  rw [mergePartitions_eq, ← keys_fileByName_nil]
  exact nodup_keys_fileByName_nil _

/-- Merging keeps the last record of each name. -/
theorem mem_mergePartitions {old new : List Partition} {p : Partition} :
    p ∈ mergePartitions old new ↔ lastNamed (old ++ new) p.name = some p := by
  rw [mergePartitions_eq, Table.values, List.mem_map, ← get?_fileByName_nil]
  constructor
  · rintro ⟨⟨key, q⟩, hentry, rfl⟩
    have hget := Table.get?_of_mem (nodup_keys_fileByName_nil _) hentry
    rw [get?_fileByName_nil] at hget
    rw [get?_fileByName_nil, (name_of_lastNamed hget).2, hget]
  · exact fun h => ⟨_, Table.mem_of_get? h, rfl⟩

/-- What is merged can be sorted exactly if all that goes into it can. -/
theorem mergePartitions_sortable_iff (old new : List Partition) :
    (∀ p ∈ mergePartitions old new, Sortable p.name) ↔ ∀ p ∈ old ++ new, Sortable p.name := by
  constructor
  · intro h p hp
    -- some record of that name is kept
    cases hlast : lastNamed (old ++ new) p.name with
    | none => exact absurd rfl (lastNamed_eq_none_iff.1 hlast p hp)
    | some q =>
      have hname := (name_of_lastNamed hlast).2
      rw [← hname]
      exact h q (mem_mergePartitions.2 (by rw [hname, hlast]))
  · exact fun h p hp => h p (name_of_lastNamed (mem_mergePartitions.1 hp)).1

/-! ## Settling -/

/-- Lists that have no name twice are permutations if they have the same elements. -/
theorem perm_iff_of_nodup {a b : List Partition} (ha : (a.map Partition.name).Nodup)
    (hb : (b.map Partition.name).Nodup) : a.Perm b ↔ ∀ p, p ∈ a ↔ p ∈ b :=
  List.perm_ext_iff_of_nodup (ha.of_map _) (hb.of_map _)

/-- However the last record of each name is picked, sorting them makes the records settle. -/
theorem sortByName_iff_settles {records kept result : List Partition}
    (hnd : (kept.map Partition.name).Nodup)
    (hkept : ∀ p, p ∈ kept ↔ lastNamed records p.name = some p) :
    sortByName Partition.name kept = .ok result ↔ Settles records result := by
  rw [sortByName_eq_ok_iff hnd, Settles, and_comm]
  refine and_congr_right fun harr => ?_
  rw [perm_iff_of_nodup harr.nodup hnd]
  exact forall_congr' fun p => by rw [hkept]

/-- Merged and sorted, records settle. -/
theorem sortByName_mergePartitions_iff {old new result : List Partition} :
    sortByName Partition.name (mergePartitions old new) = .ok result ↔
      Settles (old ++ new) result :=
  sortByName_iff_settles (nodup_mergePartitions old new) fun _ => mem_mergePartitions

/-- What records settle to has the same last record for every name. -/
theorem Settles.lastNamed_eq {records result : List Partition} (h : Settles records result)
    (name : Text) : lastNamed result name = lastNamed records name := by
  ext p
  rw [lastNamed_eq_some_iff h.1.nodup, h.2]
  constructor
  · rintro ⟨hlast, rfl⟩
    exact hlast
  · intro hlast
    have hname := (name_of_lastNamed hlast).2
    exact ⟨hname ▸ hlast, hname⟩

/-- A list that has settled stands for the records it came from. -/
theorem Settles.append_iff {records settled : List Partition} (h : Settles records settled)
    (more result : List Partition) :
    Settles (settled ++ more) result ↔ Settles (records ++ more) result := by
  rw [Settles, Settles]
  refine and_congr_right fun _ => forall_congr' fun p => ?_
  rw [lastNamed_append, lastNamed_append, h.lastNamed_eq]

/-- A batch that has been merged can be merged again without effect. -/
theorem Settles.append_again {old batch result : List Partition}
    (h : Settles (old ++ batch) result) : Settles (result ++ batch) result := by
  rw [h.append_iff]
  refine ⟨h.1, fun p => ?_⟩
  rw [h.2, lastNamed_append (old ++ batch), lastNamed_append, ← Option.or_assoc, Option.or_self]

/-- What records settle to has their names. -/
theorem Settles.name_mem_iff {records result : List Partition} (h : Settles records result)
    (name : Text) : name ∈ result.map Partition.name ↔ name ∈ records.map Partition.name := by
  constructor
  · intro hname
    obtain ⟨p, hp, rfl⟩ := List.mem_map.1 hname
    exact List.mem_map_of_mem (name_of_lastNamed ((h.2 p).1 hp)).1
  · intro hname
    obtain ⟨p, hp, rfl⟩ := List.mem_map.1 hname
    cases hlast : lastNamed records p.name with
    | none => exact absurd rfl (lastNamed_eq_none_iff.1 hlast p hp)
    | some q =>
      have hq := (name_of_lastNamed hlast).2
      exact List.mem_map.2 ⟨q, (h.2 q).2 (by rw [hq, hlast]), hq⟩

/-- What leaves the names can be done before or after looking for the last record. -/
theorem lastNamed_map {f : Partition → Partition} (hf : ∀ p, (f p).name = p.name)
    (records : List Partition) (name : Text) :
    lastNamed (records.map f) name = (lastNamed records name).map f := by
  have hnames : (fun p : Partition => decide (p.name = name)) ∘ f =
      fun p => decide (p.name = name) := by
    funext p
    rw [Function.comp_apply, hf]
  rw [lastNamed, List.filter_map, hnames, List.getLast?_map, lastNamed]

/-- A change that keeps names can be made before or after records settle. -/
theorem Settles.map {f : Partition → Partition} (hf : ∀ p, (f p).name = p.name)
    {records result : List Partition} (h : Settles records result) :
    Settles (records.map f) (result.map f) := by
  refine ⟨⟨?_, ?_⟩, fun p => ?_⟩
  · intro p hp
    obtain ⟨q, hq, rfl⟩ := List.mem_map.1 hp
    rw [hf]
    exact h.1.1 q hq
  · rw [List.pairwise_map]
    simp only [hf]
    exact h.1.2
  · rw [lastNamed_map hf, List.mem_map, Option.map_eq_some_iff]
    constructor
    · rintro ⟨q, hq, rfl⟩
      rw [hf]
      exact ⟨q, (h.2 q).1 hq, rfl⟩
    · rintro ⟨q, hlast, rfl⟩
      rw [hf] at hlast
      exact ⟨q, (h.2 q).2 hlast, rfl⟩

/-- What is arranged has settled. -/
theorem settles_of_arranged {records : List Partition} (h : Arranged Partition.name records) :
    Settles records records :=
  ⟨h, fun p => by rw [lastNamed_eq_some_iff h.nodup, and_iff_left rfl]⟩

/-- Records with distinct names all stay. -/
theorem Settles.perm {records result : List Partition} (h : Settles records result)
    (hnd : (records.map Partition.name).Nodup) : result.Perm records := by
  rw [perm_iff_of_nodup h.1.nodup hnd]
  intro p
  rw [h.2, lastNamed_eq_some_iff hnd, and_iff_left rfl]

/-! ## The list that records settle to -/

/-- Every record that no later one of its name replaces. -/
def latest : List Partition → List Partition
  | [] => []
  | p :: rest => if rest.any (·.name = p.name) then latest rest else p :: latest rest

/-- The records that count, in natural order; it fails if one of their names has no place in it. -/
def settle (records : List Partition) : Except Fault (List Partition) :=
  sortByName Partition.name (latest records)

/-- The latest records are those that are the last of their names. -/
theorem mem_latest {records : List Partition} {p : Partition} :
    p ∈ latest records ↔ lastNamed records p.name = some p := by
  induction records with
  | nil => simp [latest]
  | cons q rest ih =>
    rw [latest, lastNamed_cons]
    by_cases hany : rest.any (·.name = q.name) = true
    · -- `q` is replaced, and the last record of its name is in the rest
      rw [if_pos hany, ih]
      by_cases hname : q.name = p.name
      · have hsome : lastNamed rest p.name ≠ none := by
          rw [ne_eq, lastNamed_eq_none_iff]
          intro hnone
          obtain ⟨r, hr, hrname⟩ := List.any_eq_true.1 hany
          exact hnone r hr ((of_decide_eq_true hrname).trans hname)
        obtain ⟨r, hr⟩ := Option.ne_none_iff_exists'.1 hsome
        simp [hr]
      · simp [hname]
    · rw [if_neg hany, List.mem_cons, ih]
      by_cases hname : q.name = p.name
      · have hnone : lastNamed rest p.name = none := by
          rw [lastNamed_eq_none_iff]
          intro r hr hrname
          exact hany (List.any_eq_true.2 ⟨r, hr, decide_eq_true (hrname.trans hname.symm)⟩)
        simp [hnone, hname, eq_comm]
      · have hne : p ≠ q := fun h => hname (h ▸ rfl)
        simp [hname, hne]

/-- The latest records have no name twice. -/
theorem nodup_latest (records : List Partition) : ((latest records).map Partition.name).Nodup := by
  induction records with
  | nil => simp [latest]
  | cons q rest ih =>
    rw [latest]
    split
    · exact ih
    · next hany =>
      rw [List.map_cons, List.nodup_cons]
      refine ⟨fun hmem => ?_, ih⟩
      obtain ⟨r, hr, hname⟩ := List.mem_map.1 hmem
      have hrest := (name_of_lastNamed (mem_latest.1 hr)).1
      exact hany (List.any_eq_true.2 ⟨r, hrest, decide_eq_true hname⟩)

/-- What records settle to is computed by `settle`. -/
theorem settle_eq_ok_iff {records result : List Partition} :
    settle records = .ok result ↔ Settles records result :=
  sortByName_iff_settles (nodup_latest records) fun _ => mem_latest

/-- Records settle to one list only. -/
theorem Settles.unique {records a b : List Partition} (ha : Settles records a)
    (hb : Settles records b) : a = b := by
  rw [← settle_eq_ok_iff] at ha hb
  exact Except.ok.inj (ha.symm.trans hb)

/-! ## Disks whose partitions have settled -/

/-- The partitions of every disk have settled. -/
def Tidy (disks : Table Disk) : Prop :=
  ∀ device, Arranged Partition.name (diskOf disks device).partitions

/-- Disks stay tidy when one is put whose partitions have settled. -/
theorem Tidy.put {disks : Table Disk} (h : Tidy disks) {device : Text} {disk : Disk}
    (hdisk : Arranged Partition.name disk.partitions) : Tidy (disks.put device disk) := by
  intro other
  rw [diskOf, Table.get?_put]
  split
  · exact hdisk
  · exact h other

/-- The partitions of a tidy disk are arranged. -/
theorem Tidy.arranged {disks : Table Disk} (h : Tidy disks) (hnd : disks.keys.Nodup) {disk : Disk}
    (hdisk : disk ∈ disks.values) : Arranged Partition.name disk.partitions := by
  obtain ⟨⟨device, d⟩, hentry, rfl⟩ := List.mem_map.1 hdisk
  exact diskOf_of_get? (Table.get?_of_mem hnd hentry) ▸ h device

end StorageInventory
