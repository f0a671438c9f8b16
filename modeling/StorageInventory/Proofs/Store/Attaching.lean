import Mathlib.Tactic
import StorageInventory.Proofs.Store.Merging

/-!
# Attaching a batch

Attaching looks up the minor numbers of a batch and merges the batch into its disk.  The lookups are
asked in order and may answer anything, depending on what happened before; they add to the journal,
to the list of names asked and to the counts, and touch nothing else.  So what attaching does to the
disks, and whether it fails, can be said without them.

* `resolveAll_isOk_iff` — the lookups fail only for a name that cannot be looked up,
* `attach_isOk_iff` — attaching fails for such a name, and for one that has no place in the natural
  order, among the names of the batch and of the partitions the disk has,
* `attach_ok` — if it does not, the disk's partitions are what old and new ones settle to, and no
  other disk changes,
* `attach_of_fault` — if it does, nothing in the store changes,
* `attach_alike` — the counts have no influence on any of this.
-/

namespace StorageInventory

open Name

namespace Session

/-! ## Frames -/

/-- The sessions differ in their counts at most. -/
def Alike (s t : Session) : Prop := ∃ counts, s = { t with diagnostics := counts }

/-- The sessions know the same devices, disks and mount points at the same moment. -/
structure SameStore (s t : Session) : Prop where
  valid : s.valid = t.valid
  disks : s.disks = t.disks
  mounts : s.mounts = t.mounts
  timestamp : s.timestamp = t.timestamp

theorem Alike.refl (s : Session) : s.Alike s := ⟨s.diagnostics, rfl⟩

theorem Alike.symm {s t : Session} (h : s.Alike t) : t.Alike s := by
  obtain ⟨counts, rfl⟩ := h
  exact ⟨t.diagnostics, rfl⟩

theorem Alike.trans {s t u : Session} (hst : s.Alike t) (htu : t.Alike u) : s.Alike u := by
  obtain ⟨a, rfl⟩ := hst
  obtain ⟨b, rfl⟩ := htu
  exact ⟨a, rfl⟩

/-- Sessions that differ in counts only have the same store. -/
theorem Alike.sameStore {s t : Session} (h : s.Alike t) : s.SameStore t := by
  obtain ⟨counts, rfl⟩ := h
  exact ⟨rfl, rfl, rfl, rfl⟩

/-- Counting differs in counts only. -/
theorem alike_tick (s : Session) (source kind : Text) : (s.tick source kind).Alike s := ⟨_, rfl⟩

/-- Sessions that differ in counts only still do so when both count the same. -/
theorem Alike.tick {s t : Session} (h : s.Alike t) (source kind : Text) :
    (s.tick source kind).Alike (t.tick source kind) :=
  (alike_tick s source kind).trans (h.trans (alike_tick t source kind).symm)

/-- Sessions that differ in counts only still do so when both are told the same. -/
theorem Alike.tell {s t : Session} (h : s.Alike t) (notice : Log.Notice) :
    (s.tell notice).Alike (t.tell notice) := by
  obtain ⟨counts, rfl⟩ := h
  exact ⟨counts, rfl⟩

/-- Sessions that differ in counts only register devices alike. -/
theorem Alike.register {s t : Session} (h : s.Alike t) (device : Text) :
    (s.register device).Alike (t.register device) := by
  obtain ⟨counts, rfl⟩ := h
  unfold Session.register
  split
  · exact ⟨counts, rfl⟩
  · exact ⟨counts, rfl⟩

theorem SameStore.refl (s : Session) : s.SameStore s := ⟨rfl, rfl, rfl, rfl⟩

theorem SameStore.trans {s t u : Session} (hst : s.SameStore t) (htu : t.SameStore u) :
    s.SameStore u :=
  ⟨hst.valid.trans htu.valid, hst.disks.trans htu.disks, hst.mounts.trans htu.mounts,
    hst.timestamp.trans htu.timestamp⟩

theorem SameStore.symm {s t : Session} (h : s.SameStore t) : t.SameStore s :=
  ⟨h.valid.symm, h.disks.symm, h.mounts.symm, h.timestamp.symm⟩

/-- The same edit leaves the same store the same. -/
theorem SameStore.updateDisk {s t : Session} (h : s.SameStore t) (device : Text)
    (change : Disk → Disk) : (s.updateDisk device change).SameStore (t.updateDisk device change) :=
  ⟨h.valid, by rw [disks_updateDisk, disks_updateDisk, h.disks], h.mounts, h.timestamp⟩

/-- The scope depends on the devices that were found only. -/
theorem isValid_congr {s t : Session} (h : s.valid = t.valid) : s.isValid = t.isValid := by
  funext device
  rw [Session.isValid, h, Session.isValid]

/-- The same store has the same scope. -/
theorem SameStore.isValid {s t : Session} (h : s.SameStore t) : s.isValid = t.isValid :=
  isValid_congr h.valid

/-! ## Lookups -/

/-- The minor number that a lookup gives, zero if it gives none. -/
def minorOf (name : Text) (finding : Finding) : Int := ((readMinor name finding).getLeft?).getD 0

/-- The minor number of a partition depends on its name only: it is zero without lookups, and
otherwise what the lookup gives, whatever happened before. -/
def NumbersBy (lookup : Option (Text → Answer)) (minor : Text → Int) : Prop :=
  match lookup with
  | none => ∀ name, minor name = 0
  | some l => ∀ name before, minorOf name ((l name).run before).1 = minor name

/-- The partition with the minor number of its name. -/
def numbered (minor : Text → Int) (p : Partition) : Partition :=
  { p with minorNumber := minor p.name }

/-- Numbering leaves the name. -/
theorem name_numbered (minor : Text → Int) (p : Partition) : (numbered minor p).name = p.name := rfl

/-- Asking for a minor number leaves the store. -/
theorem askMinor_sameStore (s : Session) (lookup : Text → Answer) (name : Text) :
    (s.askMinor lookup name).1.SameStore s := by
  rw [askMinor]
  dsimp only
  split <;> exact ⟨rfl, rfl, rfl, rfl⟩

/-- The number that is found depends on the name, the lookup and the journal. -/
theorem askMinor_number (s : Session) (lookup : Text → Answer) (name : Text) :
    (s.askMinor lookup name).2 = minorOf name ((lookup name).run s.journal).1 := by
  rw [askMinor, minorOf]
  dsimp only
  split <;> next h => simp [h]

/-- Sessions that differ in counts only ask alike. -/
theorem askMinor_alike {s t : Session} (h : s.Alike t) (lookup : Text → Answer) (name : Text) :
    (s.askMinor lookup name).1.Alike (t.askMinor lookup name).1 ∧
      (s.askMinor lookup name).2 = (t.askMinor lookup name).2 := by
  refine ⟨?_, ?_⟩
  · obtain ⟨counts, rfl⟩ := h
    rw [askMinor, askMinor]
    dsimp only
    split <;> exact ⟨_, rfl⟩
  · obtain ⟨counts, rfl⟩ := h
    rw [askMinor_number, askMinor_number]

/-- A name that can be looked up is asked for. -/
theorem resolveMinor_of_isPartitionName {name : Text} (h : isPartitionName name = true)
    (s : Session) (lookup : Text → Answer) :
    s.resolveMinor lookup name =
      ((s.askMinor lookup name).1, .ok (s.askMinor lookup name).2) := by
  simp [resolveMinor, checkPartitionName, h]

/-- A name that cannot be looked up is a fault, and nothing is asked for. -/
theorem resolveMinor_of_not_isPartitionName {name : Text} (h : isPartitionName name = false)
    (s : Session) (lookup : Text → Answer) :
    s.resolveMinor lookup name = (s, .error (.partitionName name)) := by
  simp [resolveMinor, checkPartitionName, h]

/-! ## Batches -/

/-- Batches that differ in their minor numbers at most. -/
def SameButMinors (a b : List Partition) : Prop :=
  a.map (fun p => { p with minorNumber := 0 }) = b.map (fun p => { p with minorNumber := 0 })

/-- Minor numbers have no part in the names. -/
theorem SameButMinors.map_name {a b : List Partition} (h : SameButMinors a b) :
    a.map Partition.name = b.map Partition.name := by
  have hname := congrArg (List.map Partition.name) h
  simpa [List.map_map, Function.comp_def] using hname

/-- Minor numbers have no part in the order. -/
theorem SameButMinors.sortable_iff {a b : List Partition} (h : SameButMinors a b) :
    (∀ p ∈ a, Sortable p.name) ↔ ∀ p ∈ b, Sortable p.name := by
  rw [← List.forall_mem_map (f := Partition.name) (P := Sortable), h.map_name, List.forall_mem_map]

/-- The lookup of a batch is the lookup of its first partition, whose name has to be one that can be
looked up, and then that of the others. -/
theorem resolveAll_cons (lookup : Text → Answer) (p : Partition) (rest : List Partition)
    (s : Session) :
    resolveAll lookup (p :: rest) s =
      if isPartitionName p.name = true then
        ((resolveAll lookup rest (s.askMinor lookup p.name).1).1,
          (resolveAll lookup rest (s.askMinor lookup p.name).1).2.map
            ({ p with minorNumber := (s.askMinor lookup p.name).2 } :: ·))
      else (s, .error (.partitionName p.name)) := by
  rw [resolveAll]
  split_ifs with hp
  · rw [resolveMinor_of_isPartitionName hp]
    dsimp only
    split <;> next heq => simp [heq, Except.map]
  · rw [resolveMinor_of_not_isPartitionName (by simpa using hp)]

/-- Resolving a batch leaves the store. -/
theorem resolveAll_sameStore (lookup : Text → Answer) (batch : List Partition) (s : Session) :
    (resolveAll lookup batch s).1.SameStore s := by
  induction batch generalizing s with
  | nil => exact .refl s
  | cons p rest ih =>
    rw [resolveAll_cons]
    split_ifs
    · exact (ih _).trans (askMinor_sameStore s lookup p.name)
    · exact .refl s

/-- The lookups of a batch fail only for a name that cannot be looked up. -/
theorem resolveAll_isOk_iff (lookup : Text → Answer) (batch : List Partition) (s : Session) :
    (∃ resolved, (resolveAll lookup batch s).2 = .ok resolved) ↔
      ∀ p ∈ batch, isPartitionName p.name = true := by
  induction batch generalizing s with
  | nil => simp [resolveAll]
  | cons p rest ih =>
    rw [resolveAll_cons, List.forall_mem_cons]
    split_ifs with hp
    · rw [exists_map_eq_ok_iff, ih]
      simp [hp]
    · simp [hp]

/-- The lookups give the batch its minor numbers and change nothing else in it. -/
theorem resolveAll_sameButMinors {lookup : Text → Answer} {batch resolved : List Partition}
    {s : Session} (h : (resolveAll lookup batch s).2 = .ok resolved) :
    SameButMinors resolved batch := by
  induction batch generalizing s resolved with
  | nil =>
    rw [resolveAll, Except.ok.injEq] at h
    subst h
    rfl
  | cons p rest ih =>
    rw [resolveAll_cons] at h
    split_ifs at h
    · obtain ⟨tail, htail, rfl⟩ := map_eq_ok_iff.1 h
      have hrest := ih htail
      rw [SameButMinors] at hrest ⊢
      rw [List.map_cons, List.map_cons, hrest]

/-- If the numbers depend on the names only, they are those of the names. -/
theorem resolveAll_numbersBy {lookup : Text → Answer} {minor : Text → Int}
    (hminor : NumbersBy (some lookup) minor) {batch resolved : List Partition} {s : Session}
    (h : (resolveAll lookup batch s).2 = .ok resolved) : resolved = batch.map (numbered minor) := by
  induction batch generalizing s resolved with
  | nil =>
    rw [resolveAll, Except.ok.injEq] at h
    subst h
    rfl
  | cons p rest ih =>
    rw [resolveAll_cons] at h
    split_ifs at h
    · obtain ⟨tail, htail, rfl⟩ := map_eq_ok_iff.1 h
      have hnumber : (s.askMinor lookup p.name).2 = minor p.name :=
        (askMinor_number s lookup p.name).trans (hminor p.name s.journal)
      rw [List.map_cons, ← ih htail, hnumber, numbered]

/-- Sessions that differ in counts only resolve a batch alike. -/
theorem resolveAll_alike {s t : Session} (h : s.Alike t) (lookup : Text → Answer)
    (batch : List Partition) :
    (resolveAll lookup batch s).1.Alike (resolveAll lookup batch t).1 ∧
      (resolveAll lookup batch s).2 = (resolveAll lookup batch t).2 := by
  induction batch generalizing s t with
  | nil => exact ⟨h, rfl⟩
  | cons p rest ih =>
    obtain ⟨hask, hnumber⟩ := askMinor_alike h lookup p.name
    obtain ⟨hrest, hresult⟩ := ih hask
    rw [resolveAll_cons, resolveAll_cons]
    split_ifs
    · exact ⟨hrest, by rw [hresult, hnumber]⟩
    · exact ⟨h, rfl⟩

/-! ## Merging into a disk -/

/-- A batch can be merged exactly if it and the partitions of its disk have sortable names. -/
theorem mergeInto_isOk_iff (s : Session) (disk : Text) (batch : List Partition) :
    (s.mergeInto disk batch).2 = none ↔
      ∀ p ∈ (diskOf s.disks disk).partitions ++ batch, Sortable p.name := by
  rw [mergeInto, diskOrNew_eq, ← mergePartitions_sortable_iff,
    ← sortByName_isOk_iff Partition.name]
  split <;> next h => simp [h]

/-- Where merging fails, a name has no place in the order, and nothing has changed. -/
theorem mergeInto_error {s : Session} {disk : Text} {batch : List Partition} {fault : Fault}
    (h : (s.mergeInto disk batch).2 = some fault) :
    IsOrderFault fault ∧ (s.mergeInto disk batch).1 = s := by
  rw [mergeInto] at h ⊢
  split at h
  · next other hsort =>
    have heq : other = fault := Option.some.inj h
    exact ⟨heq ▸ isOrderFault_of_sortByName hsort, rfl⟩
  · simp at h

/-- The disk's partitions become what old and new ones settle to; nothing else changes. -/
theorem mergeInto_eq {s : Session} {disk : Text} {batch : List Partition}
    (h : (s.mergeInto disk batch).2 = none) :
    ∃ result, Settles ((diskOf s.disks disk).partitions ++ batch) result ∧
      (s.mergeInto disk batch).1 = s.updateDisk disk fun d => { d with partitions := result } := by
  rw [mergeInto] at h ⊢
  split at h
  · simp at h
  · next sorted hsort =>
    exact ⟨sorted, sortByName_mergePartitions_iff.1 hsort, rfl⟩

/-- Sessions that differ in counts only merge a batch alike. -/
theorem mergeInto_alike {s t : Session} (h : s.Alike t) (disk : Text) (batch : List Partition) :
    (s.mergeInto disk batch).1.Alike (t.mergeInto disk batch).1 ∧
      (s.mergeInto disk batch).2 = (t.mergeInto disk batch).2 := by
  obtain ⟨counts, rfl⟩ := h
  rw [mergeInto, mergeInto, diskOrNew_eq, diskOrNew_eq]
  dsimp only
  split
  · exact ⟨⟨counts, rfl⟩, rfl⟩
  · exact ⟨⟨counts, rfl⟩, rfl⟩

/-! ## Attaching -/

/-- The names of a batch can be looked up, if they are looked up at all. -/
def Resolvable (lookup : Option (Text → Answer)) (batch : List Partition) : Prop :=
  lookup ≠ none → ∀ p ∈ batch, isPartitionName p.name = true

/-- Sessions that differ in counts only attach a batch alike. -/
theorem attach_alike {s t : Session} (h : s.Alike t) (lookup : Option (Text → Answer))
    (disk : Text) (batch : List Partition) :
    (s.attach lookup disk batch).1.Alike (t.attach lookup disk batch).1 ∧
      (s.attach lookup disk batch).2 = (t.attach lookup disk batch).2 := by
  cases lookup with
  | none => exact mergeInto_alike h disk batch
  | some lookup =>
    obtain ⟨hsession, hresult⟩ := resolveAll_alike h lookup batch
    rw [attach, attach, ← Prod.mk.eta (p := resolveAll lookup batch s),
      ← Prod.mk.eta (p := resolveAll lookup batch t), hresult]
    cases (resolveAll lookup batch t).2 with
    | error fault => exact ⟨hsession, rfl⟩
    | ok resolved => exact mergeInto_alike hsession disk resolved

/-- What a batch is merged as: with its minor numbers, if there are lookups. -/
theorem attach_eq_mergeInto {s : Session} {lookup : Option (Text → Answer)}
    {batch : List Partition} (h : Resolvable lookup batch) (disk : Text) :
    ∃ (t : Session) (resolved : List Partition),
      s.attach lookup disk batch = t.mergeInto disk resolved ∧ t.SameStore s ∧
        SameButMinors resolved batch ∧
        ∀ minor, NumbersBy lookup minor → (∀ p ∈ batch, p.minorNumber = 0) →
          resolved = batch.map (numbered minor) := by
  cases lookup with
  | none =>
    refine ⟨s, batch, rfl, .refl s, rfl, ?_⟩
    intro minor hminor hzero
    have hself : ∀ p ∈ batch, numbered minor p = p := by
      intro p hp
      rw [numbered, hminor p.name, ← hzero p hp]
    rw [List.map_congr_left hself, List.map_id']
  | some lookup =>
    obtain ⟨resolved, hres⟩ := (resolveAll_isOk_iff lookup batch s).2 (h (by simp))
    refine ⟨(resolveAll lookup batch s).1, resolved, ?_, resolveAll_sameStore lookup batch s,
      resolveAll_sameButMinors hres, fun minor hminor _ => resolveAll_numbersBy hminor hres⟩
    rw [attach, ← Prod.mk.eta (p := resolveAll lookup batch s), hres]

/-- Attaching succeeds exactly if all names can be looked up and put in order. -/
theorem attach_isOk_iff (s : Session) (lookup : Option (Text → Answer)) (disk : Text)
    (batch : List Partition) :
    (s.attach lookup disk batch).2 = none ↔
      Resolvable lookup batch ∧
        ∀ p ∈ (diskOf s.disks disk).partitions ++ batch, Sortable p.name := by
  by_cases h : Resolvable lookup batch
  · obtain ⟨t, resolved, heq, hstore, hsame, -⟩ := attach_eq_mergeInto (s := s) h disk
    rw [heq, mergeInto_isOk_iff, hstore.disks, List.forall_mem_append, List.forall_mem_append,
      hsame.sortable_iff]
    exact (and_iff_right h).symm
  · rw [iff_false_right (fun hand => h hand.1)]
    cases lookup with
    -- without lookups every batch will do
    | none => exact absurd (fun hne => absurd rfl hne) h
    | some lookup =>
      have hnot : ¬ ∀ p ∈ batch, isPartitionName p.name = true := fun hall => h fun _ => hall
      rw [← resolveAll_isOk_iff lookup batch s] at hnot
      rw [attach, ← Prod.mk.eta (p := resolveAll lookup batch s)]
      cases hres : (resolveAll lookup batch s).2 with
      | error fault => simp
      | ok resolved => exact absurd ⟨resolved, hres⟩ hnot

/-- Attaching gives the disk what its partitions and the batch settle to, and changes no other. -/
theorem attach_ok {s : Session} {lookup : Option (Text → Answer)} {disk : Text}
    {batch : List Partition} (h : (s.attach lookup disk batch).2 = none) :
    ∃ resolved result, SameButMinors resolved batch ∧
      (∀ minor, NumbersBy lookup minor → (∀ p ∈ batch, p.minorNumber = 0) →
        resolved = batch.map (numbered minor)) ∧
      Settles ((diskOf s.disks disk).partitions ++ resolved) result ∧
      (s.attach lookup disk batch).1.SameStore
        (s.updateDisk disk fun d => { d with partitions := result }) := by
  obtain ⟨t, resolved, heq, hstore, hsame, hminor⟩ :=
    attach_eq_mergeInto ((attach_isOk_iff s lookup disk batch).1 h).1 disk
  rw [heq] at h
  obtain ⟨result, hsettles, hresult⟩ := mergeInto_eq h
  rw [hstore.disks] at hsettles
  refine ⟨resolved, result, hsame, hminor, hsettles, ?_⟩
  rw [heq, hresult]
  refine ⟨hstore.valid, ?_, hstore.mounts, hstore.timestamp⟩
  rw [disks_updateDisk, disks_updateDisk, hstore.disks]

/-- A fault in attaching leaves the store as it was. -/
theorem attach_of_fault {s : Session} {lookup : Option (Text → Answer)} {disk : Text}
    {batch : List Partition} {fault : Fault} (h : (s.attach lookup disk batch).2 = some fault) :
    (s.attach lookup disk batch).1.SameStore s := by
  cases lookup with
  | none =>
    have hsame : (s.attach none disk batch).1 = s := (mergeInto_error h).2
    rw [hsame]
    exact .refl s
  | some lookup =>
    have hstore := resolveAll_sameStore lookup batch s
    rw [attach, ← Prod.mk.eta (p := resolveAll lookup batch s)] at h ⊢
    cases hres : (resolveAll lookup batch s).2 with
    | error other => exact hstore
    | ok resolved =>
      rw [hres] at h
      dsimp only at h ⊢
      rw [(mergeInto_error h).2]
      exact hstore

/-- A fault in attaching is one of the natural order, if all names can be looked up. -/
theorem isOrderFault_of_attach {s : Session} {lookup : Option (Text → Answer)} {disk : Text}
    {batch : List Partition} {fault : Fault} (hr : Resolvable lookup batch)
    (h : (s.attach lookup disk batch).2 = some fault) : IsOrderFault fault := by
  obtain ⟨t, resolved, heq, -⟩ := attach_eq_mergeInto (s := s) hr disk
  rw [heq] at h
  exact (mergeInto_error h).1

end Session

end StorageInventory
