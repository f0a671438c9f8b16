import Mathlib.Tactic
import StorageInventory.Proofs.Pass.PassEvents
import StorageInventory.Proofs.Session.Lookups

/-!
# What a failure leaves

A batch that cannot be attached leaves the store as it was.  The lookups made until then have been
made: their names were asked for, and those that gave no number are counted.  Lookups may answer
anything here, depending on all that happened before.

The pass over partition geometry fails where a block cannot be attached.  It leaves what it would
leave if the listing ended in front of that block, but for the device of the block, which is known.

* `resolveAll_fst`, `attach_fst_of_fault` — the session that a failure leaves,
* `exists_fault_attach_iff` — the batches that cannot be attached,
* `exists_block_of_fault` — the block at which a listing fails,
* `attach_atomic` — both together.
-/

namespace StorageInventory

open Name Pass Text

namespace Session

/-! ## Names asked for -/

/-- Ask for the minor numbers of some names, one after the other. -/
def askAll (lookup : Text → Answer) (names : List Text) (s : Session) : Session :=
  names.foldl (fun s name => (s.askMinor lookup name).1) s

/-- How many of some names, asked for in turn, are not given a minor number. -/
def failedLookups (lookup : Text → Answer) : List Text → Session → Nat
  | [], _ => 0
  | name :: names, s =>
    (if (readMinor name ((lookup name).run s.journal).1).isRight then 1 else 0) +
      failedLookups lookup names (s.askMinor lookup name).1

/-- The names of a batch in front of the first that cannot be looked up. -/
def namesAsked (batch : List Partition) : List Text :=
  (batch.map Partition.name).takeWhile isPartitionName

/-- Names are asked for one after the other. -/
theorem askAll_cons (lookup : Text → Answer) (name : Text) (names : List Text) (s : Session) :
    askAll lookup (name :: names) s = askAll lookup names (s.askMinor lookup name).1 := rfl

/-- Every name that is asked for is noted, in order. -/
theorem asked_askAll (lookup : Text → Answer) (names : List Text) (s : Session) :
    (askAll lookup names s).asked = s.asked ++ names := by
  induction names generalizing s with
  | nil => exact (List.append_nil s.asked).symm
  | cons name names ih =>
    rw [askAll_cons, ih, asked_askMinor, List.append_assoc, List.singleton_append]

/-- One event is recorded for each lookup that gives no number. -/
theorem diagnostics_askAll (lookup : Text → Answer) (names : List Text) (s : Session) :
    (askAll lookup names s).diagnostics =
      s.diagnostics.recordAll (List.replicate (failedLookups lookup names s)
        (event Source.minor EventKind.lookupFailed)) := by
  induction names generalizing s with
  | nil => rfl
  | cons name names ih =>
    have hfirst : (s.askMinor lookup name).1.diagnostics =
        s.diagnostics.recordAll (List.replicate
          (if (readMinor name ((lookup name).run s.journal).1).isRight then 1 else 0)
          (event Source.minor EventKind.lookupFailed)) := by
      rw [askMinor]
      dsimp only
      split <;> next heq => rw [heq]; rfl
    rw [askAll_cons, ih, hfirst, failedLookups, List.replicate_add, Diagnostics.recordAll_append]

/-- The lookups of a batch go up to the first name that cannot be looked up. -/
theorem resolveAll_fst (lookup : Text → Answer) (batch : List Partition) (s : Session) :
    (resolveAll lookup batch s).1 = askAll lookup (namesAsked batch) s := by
  induction batch generalizing s with
  | nil => rfl
  | cons p rest ih =>
    rw [resolveAll_cons, namesAsked, List.map_cons, List.takeWhile_cons]
    split_ifs
    · exact ih (s.askMinor lookup p.name).1
    · rfl

/-! ## A batch -/

/-- A batch that cannot be attached leaves the session after its lookups. -/
theorem attach_fst_of_fault {s : Session} {lookup : Text → Answer} {device : Text}
    {batch : List Partition} {fault : Fault}
    (h : (s.attach (some lookup) device batch).2 = some fault) :
    (s.attach (some lookup) device batch).1 = askAll lookup (namesAsked batch) s := by
  rw [← resolveAll_fst]
  rw [attach, ← Prod.mk.eta (p := resolveAll lookup batch s)] at h ⊢
  cases hres : (resolveAll lookup batch s).2 with
  | error other => rfl
  | ok resolved =>
    rw [hres] at h
    exact (mergeInto_error h).2

/-- A name cannot be looked up if it is empty or has a slash. -/
theorem not_isPartitionName_iff {name : Text} :
    ¬ isPartitionName name = true ↔ name = [] ∨ '/' ∈ name := by
  simp [isPartitionName, or_iff_not_imp_left]

/-- A batch cannot be attached exactly if one of its names cannot be looked up, and has to be, or if
one of its names or of those that the disk has already has no place in the natural order. -/
theorem exists_fault_attach_iff (s : Session) (lookup : Option (Text → Answer)) (device : Text)
    (batch : List Partition) :
    (∃ fault, (s.attach lookup device batch).2 = some fault) ↔
      (lookup ≠ none ∧ ∃ p ∈ batch, p.name = [] ∨ '/' ∈ p.name) ∨
        ∃ p ∈ (diskOf s.disks device).partitions ++ batch, ¬ Sortable p.name := by
  rw [← Option.ne_none_iff_exists', ne_eq, attach_isOk_iff, Resolvable, not_and_or]
  simp only [← not_isPartitionName_iff]
  push Not
  rfl

/-- Where all names can be looked up, all of them are asked for. -/
theorem namesAsked_eq {batch : List Partition} (h : ∀ p ∈ batch, isPartitionName p.name = true) :
    namesAsked batch = batch.map Partition.name := by
  rw [namesAsked, List.takeWhile_eq_self_iff, List.forall_mem_map]
  exact h

end Session

/-! ## A listing -/

namespace Pass

variable {rule : NamingRule} {lookup : Option (Text → Answer)}

/-- Reading blocks comes to what the first that fails comes to, behind those before it. -/
theorem exists_readBlock_of_fault {blocks : List Block} {s : Session} {fault : Fault}
    (h : (readBlocks rule lookup blocks s).2 = some fault) :
    ∃ before b after, blocks = before ++ b :: after ∧
      (readBlocks rule lookup before s).2 = none ∧
      readBlocks rule lookup blocks s =
        readBlock rule lookup b (readBlocks rule lookup before s).1 := by
  induction blocks generalizing s with
  | nil => simp [readBlocks] at h
  | cons b blocks ih =>
    cases hb : (readBlock rule lookup b s).2 with
    | some other => exact ⟨[], b, blocks, rfl, rfl, goOn_of_fault hb _⟩
    | none =>
      rw [readBlocks, goOn_of_isOk hb] at h ⊢
      obtain ⟨before, failing, after, rfl, hok, heq⟩ := ih h
      refine ⟨b :: before, failing, after, rfl, readBlocks_cons_isOk_iff.2 ⟨hb, hok⟩, ?_⟩
      rw [heq, readBlocks, goOn_of_isOk hb]

/-- A listing fails where the block of a device in scope cannot be attached, after the lines in
front of it have been read. -/
theorem exists_block_of_fault {lines : List Text} {s : Session} {fault : Fault}
    (h : (readPartitionGeometry rule lookup lines s).2 = some fault) :
    ∃ front header rest, lines = front ++ header :: rest ∧ isBlockHeader (trim header) = true ∧
      s.isValid (lastToken header) = true ∧
      (readPartitionGeometry rule lookup front s).2 = none ∧
      Agrees (readPartitionGeometry rule lookup lines s)
        (((readPartitionGeometry rule lookup front s).1.register (lastToken header)).attach lookup
          (lastToken header) ((blockAt header rest).partitions rule s.mounts)) := by
  have hlines := readPartitionGeometry_agrees rule lookup lines s
  rw [hlines.2] at h
  obtain ⟨before, b, after, hblocks, hok, hread⟩ := exists_readBlock_of_fault h
  obtain ⟨front, header, rest, rfl, hheader, rfl, rfl⟩ := exists_header hblocks
  obtain ⟨halike, hfront⟩ := readPartitionGeometry_agrees rule lookup front s
  obtain ⟨hscope, hmounts, -⟩ := readBlocks_frame hok
  rw [← halike.sameStore.isValid] at hscope
  rw [← halike.sameStore.mounts] at hmounts
  have hblock : Agrees (readPartitionGeometry rule lookup (front ++ header :: rest) s)
      (readBlock rule lookup (blockAt header rest) (readPartitionGeometry rule lookup front s).1) :=
    hlines.trans (hread ▸ readBlock_alike halike.symm rule lookup _)
  have hvalid : s.isValid (lastToken header) = true := by
    -- a block out of scope would not have failed
    by_contra hnot
    have hout :
        (readPartitionGeometry rule lookup front s).1.isValid (lastToken header) = false := by
      rw [hscope]
      simpa using hnot
    rw [← hlines.2, hblock.2, (readBlock_of_not_valid rule lookup hout).2] at h
    simp at h
  refine ⟨front, header, rest, rfl, hheader, hvalid, hfront.trans hok, ?_⟩
  rwa [readBlock_of_valid (hscope ▸ hvalid), hmounts] at hblock

end Pass

/-- A batch cannot be attached exactly if lookups are made and one of its names is empty or has a
slash, or if a name of the batch or of the partitions that the disk has is not sortable.  The store
is left as it was then.  Without lookups nothing at all has changed; with lookups, the names in
front of the first that cannot be looked up have been asked for, which are all names where it is the
order that fails, and those that gave no number have been counted.

The record of any disk may be meant: one that no session holds is like that of a session which knows
it alone.

So a listing that fails does so at a block, and leaves what the lines in front of the block leave,
except that the device of the block is known. -/
theorem attach_atomic (s : Session) (lookup : Option (Text → Answer)) (device : Text)
    (batch : List Partition) (rule : NamingRule) (lines : List Text) :
    ((∃ fault, (s.attach lookup device batch).2 = some fault) ↔
      (lookup ≠ none ∧ ∃ p ∈ batch, p.name = [] ∨ '/' ∈ p.name) ∨
        ∃ p ∈ (diskOf s.disks device).partitions ++ batch, ¬ Sortable p.name) ∧
    (∀ fault, (s.attach lookup device batch).2 = some fault →
      (s.attach lookup device batch).1.SameStore s ∧
      (lookup = none → (s.attach lookup device batch).1 = s) ∧
      ∀ l, lookup = some l →
        let names := Session.namesAsked batch
        (s.attach lookup device batch).1.asked = s.asked ++ names ∧
        (s.attach lookup device batch).1.diagnostics =
          s.diagnostics.recordAll (List.replicate (Session.failedLookups l names s)
            (event Source.minor EventKind.lookupFailed)) ∧
        ((∀ p ∈ batch, isPartitionName p.name = true) → names = batch.map Partition.name)) ∧
    ∀ fault, (readPartitionGeometry rule lookup lines s).2 = some fault →
      ∃ front header rest, lines = front ++ header :: rest ∧ isBlockHeader (trim header) = true ∧
        s.isValid (lastToken header) = true ∧
        let before := readPartitionGeometry rule lookup front s
        let block := (before.1.register (lastToken header)).attach lookup (lastToken header)
          ((blockAt header rest).partitions rule s.mounts)
        before.2 = none ∧ block.2 = some fault ∧
        (readPartitionGeometry rule lookup lines s).1.Alike block.1 ∧
        (readPartitionGeometry rule lookup lines s).1.SameStore
          (before.1.register (lastToken header)) ∧
        ∀ other, diskOf (readPartitionGeometry rule lookup lines s).1.disks other =
          diskOf before.1.disks other := by
  refine ⟨Session.exists_fault_attach_iff s lookup device batch, fun fault h => ?_,
    fun fault h => ?_⟩
  · refine ⟨Session.attach_of_fault h, ?_, ?_⟩
    · rintro rfl
      exact (Session.mergeInto_error h).2
    · rintro l rfl
      rw [Session.attach_fst_of_fault h, Session.asked_askAll, Session.diagnostics_askAll]
      exact ⟨rfl, rfl, Session.namesAsked_eq⟩
  · obtain ⟨front, header, rest, hlines, hheader, hvalid, hok, halike, hfault⟩ :=
      exists_block_of_fault h
    -- the pass stops in the attach of one block, which has left the store as it was
    have hblock := hfault.symm.trans h
    have hstore := halike.sameStore.trans (Session.attach_of_fault hblock)
    refine ⟨front, header, rest, hlines, hheader, hvalid, hok, hblock, halike, hstore,
      fun other => ?_⟩
    rw [hstore.disks, Session.register_eq, diskOf_registration]

/-- A batch with a name that cannot be looked up, behind one that can. -/
theorem attach_atomic_ada0 :
    let lookup : Text → Answer := fun _ => .ofLines []
    let s : Session := { valid := ["ada0".toList] }
    let batch := ["ada0p1".toList, "ada0/p2".toList, "ada0p3".toList].map (blankPartition [])
    let attached := s.attach (some lookup) "ada0".toList batch
    let lines := ["Geom name: ada0".toList, "1. Name: ada0p1".toList, "Geom name: ada0".toList,
      "1. Name: ada0p1²".toList]
    let read := readPartitionGeometry geometryRule (some lookup) lines s
    (attached.2 = some (.partitionName "ada0/p2".toList) ∧ attached.1.SameStore s ∧
      attached.1.asked = ["ada0p1".toList] ∧
      attached.1.diagnostics.count Source.minor EventKind.lookupFailed = 1) ∧
    read.2 = some (.notInteger 10 "²".toList) ∧
      ∃ front header rest, lines = front ++ header :: rest ∧
        diskOf read.1.disks "ada0".toList =
          diskOf (readPartitionGeometry geometryRule (some lookup) front s).1.disks
            "ada0".toList := by
  intro lookup s batch attached lines read
  have hfault : attached.2 = some (.partitionName "ada0/p2".toList) := rfl
  have hread : read.2 = some (.notInteger 10 "²".toList) := rfl
  obtain ⟨-, hleft, hlisting⟩ :=
    attach_atomic s (some lookup) "ada0".toList batch geometryRule lines
  obtain ⟨hstore, -, hlookups⟩ := hleft _ hfault
  obtain ⟨hasked, hcounts, -⟩ := hlookups lookup rfl
  obtain ⟨front, header, rest, hlines, -, -, -, -, -, -, hdisks⟩ := hlisting _ hread
  refine ⟨⟨hfault, hstore, hasked, ?_⟩, hread, front, header, rest, hlines, hdisks _⟩
  rw [hcounts]
  decide

end StorageInventory
