import Mathlib.Tactic
import StorageInventory.Proofs.Session.PassOrder

/-!
# Batches one after the other

To attach two batches to a disk one after the other comes to the same as to attach them as one: the
same lookups are made, and the same is counted and told.  Neither the partitions that the disk had
nor the batches need be in any order, and names may be repeated; what is left is the last record of
each name, in natural order.

* `attach_eq_iff` — attaching as a lookup and what settles then,
* `resolveBy_append`, `resolveBy_updateDisk` — lookups are made one after the other, and do not see
  that a disk has changed,
* `attach_append`, `attach_append_isOk_iff` — so two batches are attached as one,
* `attach_settles` — what a disk's partitions and a batch settle to, if lookups answer by the name,
* `attach_batches` — all of this, and that a batch attached twice leaves what it leaves once.
-/

namespace StorageInventory

open Name Pass

namespace Session

/-! ## Lookups -/

/-- Look up a batch, if there are lookups. -/
def resolveBy (lookup : Option (Text → Answer)) (batch : List Partition) (s : Session) :
    Session × Except Fault (List Partition) :=
  match lookup with
  | none => (s, .ok batch)
  | some lookup => resolveAll lookup batch s

/-- What is asked for does not depend on the disks, and asking leaves them. -/
theorem askMinor_updateDisk (s : Session) (device : Text) (change : Disk → Disk)
    (lookup : Text → Answer) (name : Text) :
    (s.updateDisk device change).askMinor lookup name =
      ((s.askMinor lookup name).1.updateDisk device change, (s.askMinor lookup name).2) := by
  rw [askMinor, askMinor, updateDisk]
  dsimp only
  split <;> rfl

/-- Resolving a batch does not depend on the disks, and leaves them. -/
theorem resolveAll_updateDisk (s : Session) (device : Text) (change : Disk → Disk)
    (lookup : Text → Answer) (batch : List Partition) :
    resolveAll lookup batch (s.updateDisk device change) =
      ((resolveAll lookup batch s).1.updateDisk device change,
        (resolveAll lookup batch s).2) := by
  induction batch generalizing s with
  | nil => rfl
  | cons p rest ih =>
    rw [resolveAll_cons, resolveAll_cons, askMinor_updateDisk, ih]
    split <;> rfl

/-- Lookups can be made before or after a disk is changed. -/
theorem resolveBy_updateDisk (s : Session) (device : Text) (change : Disk → Disk)
    (lookup : Option (Text → Answer)) (batch : List Partition) :
    resolveBy lookup batch (s.updateDisk device change) =
      ((resolveBy lookup batch s).1.updateDisk device change, (resolveBy lookup batch s).2) := by
  cases lookup with
  | none => rfl
  | some lookup => exact resolveAll_updateDisk s device change lookup batch

/-- Resolving a batch leaves the store. -/
theorem resolveBy_sameStore (lookup : Option (Text → Answer)) (batch : List Partition)
    (s : Session) : (resolveBy lookup batch s).1.SameStore s := by
  cases lookup with
  | none => exact .refl s
  | some lookup => exact resolveAll_sameStore lookup batch s

/-- Two batches that can be resolved one after the other are resolved together. -/
theorem resolveAll_append {lookup : Text → Answer} {batch more resolved others : List Partition}
    {s : Session} (h : (resolveAll lookup batch s).2 = .ok resolved)
    (hmore : (resolveAll lookup more (resolveAll lookup batch s).1).2 = .ok others) :
    resolveAll lookup (batch ++ more) s =
      ((resolveAll lookup more (resolveAll lookup batch s).1).1, .ok (resolved ++ others)) := by
  induction batch generalizing s resolved with
  | nil =>
    obtain rfl : [] = resolved := Except.ok.inj h
    exact Prod.ext rfl hmore
  | cons p rest ih =>
    rw [resolveAll_cons] at h hmore
    rw [List.cons_append, resolveAll_cons, resolveAll_cons]
    split_ifs at h hmore ⊢
    obtain ⟨tail, htail, rfl⟩ := map_eq_ok_iff.1 h
    rw [ih htail hmore]
    rfl

/-- The lookups of two batches are made one after the other. -/
theorem resolveBy_append {lookup : Option (Text → Answer)}
    {batch more resolved others : List Partition} {s : Session}
    (h : (resolveBy lookup batch s).2 = .ok resolved)
    (hmore : (resolveBy lookup more (resolveBy lookup batch s).1).2 = .ok others) :
    resolveBy lookup (batch ++ more) s =
      ((resolveBy lookup more (resolveBy lookup batch s).1).1, .ok (resolved ++ others)) := by
  cases lookup with
  | none =>
    obtain rfl : batch = resolved := Except.ok.inj h
    obtain rfl : more = others := Except.ok.inj hmore
    rfl
  | some lookup => exact resolveAll_append h hmore

/-! ## Attaching -/

/-- A batch is merged if it settles with the partitions that the disk has. -/
theorem mergeInto_eq_iff {s t : Session} {device : Text} {batch : List Partition} :
    s.mergeInto device batch = (t, none) ↔
      ∃ result, Settles ((diskOf s.disks device).partitions ++ batch) result ∧
        t = s.updateDisk device fun d => { d with partitions := result } := by
  constructor
  · intro h
    have hok : (s.mergeInto device batch).2 = none := congrArg Prod.snd h
    obtain ⟨result, hsettles, heq⟩ := mergeInto_eq hok
    exact ⟨result, hsettles, by rw [← heq, h]⟩
  · rintro ⟨result, hsettles, rfl⟩
    rw [mergeInto, diskOrNew_eq, sortByName_mergePartitions_iff.2 hsettles]

/-- A batch is attached if it can be looked up, and what is looked up can be merged. -/
theorem attach_eq_iff {s t : Session} {lookup : Option (Text → Answer)} {device : Text}
    {batch : List Partition} :
    s.attach lookup device batch = (t, none) ↔
      ∃ resolved result, (resolveBy lookup batch s).2 = .ok resolved ∧
        Settles ((diskOf s.disks device).partitions ++ resolved) result ∧
        t = (resolveBy lookup batch s).1.updateDisk device
          fun d => { d with partitions := result } := by
  cases lookup with
  | none =>
    rw [attach, mergeInto_eq_iff]
    constructor
    · rintro ⟨result, hsettles, rfl⟩
      exact ⟨batch, result, rfl, hsettles, rfl⟩
    · rintro ⟨resolved, result, hresolved, hsettles, rfl⟩
      obtain rfl : batch = resolved := Except.ok.inj hresolved
      exact ⟨result, hsettles, rfl⟩
  | some lookup =>
    have hdisks : (resolveAll lookup batch s).1.disks = s.disks :=
      (resolveAll_sameStore lookup batch s).disks
    rw [attach, ← Prod.mk.eta (p := resolveAll lookup batch s), resolveBy, ← hdisks]
    cases hresolved : (resolveAll lookup batch s).2 with
    | error fault => simp
    | ok resolved => simp [mergeInto_eq_iff]

/-- Batches that are attached one after the other are attached as one. -/
theorem attach_append {s t u : Session} {lookup : Option (Text → Answer)} {device : Text}
    {batch more : List Partition} (hbatch : s.attach lookup device batch = (t, none))
    (hmore : t.attach lookup device more = (u, none)) :
    s.attach lookup device (batch ++ more) = (u, none) := by
  rw [attach_eq_iff] at hbatch hmore ⊢
  obtain ⟨resolved, result, hresolved, hsettles, rfl⟩ := hbatch
  obtain ⟨others, final, hothers, hfinal, rfl⟩ := hmore
  rw [resolveBy_updateDisk] at hothers
  rw [diskOf_updateDisk, (resolveBy_sameStore lookup batch s).disks] at hfinal
  refine ⟨resolved ++ others, final, ?_, ?_, ?_⟩
  · rw [resolveBy_append hresolved hothers]
  · rw [← List.append_assoc]
    exact (hsettles.append_iff others final).1 hfinal
  · rw [resolveBy_append hresolved hothers, resolveBy_updateDisk, updateDisk_updateDisk]

/-- Two batches can be attached one after the other exactly if they can be attached as one. -/
theorem attach_append_isOk_iff (s : Session) (lookup : Option (Text → Answer)) (device : Text)
    (batch more : List Partition) :
    (s.attach lookup device (batch ++ more)).2 = none ↔
      (s.attach lookup device batch).2 = none ∧
        ((s.attach lookup device batch).1.attach lookup device more).2 = none := by
  constructor
  · intro h
    obtain ⟨hresolvable, hsortable⟩ := (attach_isOk_iff _ _ _ _).1 h
    rw [← List.append_assoc, List.forall_mem_append] at hsortable
    have hbatch : (s.attach lookup device batch).2 = none :=
      (attach_isOk_iff _ _ _ _).2
        ⟨fun hne p hp => hresolvable hne p (List.mem_append_left more hp), hsortable.1⟩
    obtain ⟨_, result, -, -, hsettles, hstore⟩ := attach_ok hbatch
    refine ⟨hbatch, (attach_isOk_iff _ _ _ _).2
      ⟨fun hne p hp => hresolvable hne p (List.mem_append_right batch hp), ?_⟩⟩
    rw [hstore.disks, diskOf_updateDisk, List.forall_mem_append]
    exact ⟨hsettles.1.1, hsortable.2⟩
  · rintro ⟨hbatch, hmore⟩
    exact congrArg Prod.snd (attach_append (Prod.ext rfl hbatch) (Prod.ext rfl hmore))

/-! ## Lookups that answer by the name -/

/-- A partition as it is attached: with the minor number that its lookup gives, or as it is if there
are no lookups. -/
def numberedBy (lookup : Option (Text → Answer)) (answer : Text → Finding) (p : Partition) :
    Partition :=
  if lookup.isSome then numbered (fun name => minorOf name (answer name)) p else p

/-- Numbering leaves the name. -/
theorem name_numberedBy (lookup : Option (Text → Answer)) (answer : Text → Finding)
    (p : Partition) : (numberedBy lookup answer p).name = p.name := by
  rw [numberedBy]
  split <;> rfl

variable {lookup : Option (Text → Answer)} {answer : Text → Finding} {s t : Session}
  {device : Text} {batch : List Partition}

/-- A batch that is resolved has the numbers that the lookups answer. -/
theorem resolveBy_answersBy (hanswers : AnswersBy lookup answer) {resolved : List Partition}
    (h : (resolveBy lookup batch s).2 = .ok resolved) :
    resolved = batch.map (numberedBy lookup answer) := by
  cases lookup with
  | none =>
    obtain rfl : batch = resolved := Except.ok.inj h
    exact (List.map_id batch).symm
  | some lookup => exact resolveAll_numbersBy hanswers.numbersBy h

/-- The partitions of the disk and the batch settle, and nothing else in the store changes. -/
theorem attach_settles (hanswers : AnswersBy lookup answer)
    (h : s.attach lookup device batch = (t, none)) :
    let result := (diskOf t.disks device).partitions
    Settles ((diskOf s.disks device).partitions ++ batch.map (numberedBy lookup answer)) result ∧
      t.SameStore (s.updateDisk device fun d => { d with partitions := result }) := by
  intro result
  obtain ⟨resolved, settled, hresolved, hsettles, rfl⟩ := attach_eq_iff.1 h
  have hstore := (resolveBy_sameStore lookup batch s).updateDisk device
    fun d => { d with partitions := settled }
  have hresult : result = settled := by
    show (diskOf _ device).partitions = settled
    rw [hstore.disks, diskOf_updateDisk]
  rw [resolveBy_answersBy hanswers hresolved] at hsettles
  rw [hresult]
  exact ⟨hsettles, hstore⟩

/-- A batch that has been attached can be attached again, and leaves the store as it is. -/
theorem attach_again (hanswers : AnswersBy lookup answer)
    (h : s.attach lookup device batch = (t, none)) :
    (t.attach lookup device batch).2 = none ∧ (t.attach lookup device batch).1.SameStore t := by
  obtain ⟨hsettles, hstore⟩ := attach_settles hanswers h
  obtain ⟨hresolvable, hsortable⟩ :=
    (attach_isOk_iff s lookup device batch).1 (congrArg Prod.snd h)
  have hok : (t.attach lookup device batch).2 = none := by
    rw [attach_isOk_iff, List.forall_mem_append]
    exact ⟨hresolvable, hsettles.1.1, (List.forall_mem_append.1 hsortable).2⟩
  obtain ⟨hfinal, hagain⟩ := attach_settles hanswers (Prod.ext rfl hok)
  -- the batch settles with what it left just as it did before
  rw [hfinal.unique hsettles.append_again] at hagain
  have hself := hstore.updateDisk device
    fun d => { d with partitions := (diskOf t.disks device).partitions }
  rw [updateDisk_updateDisk] at hself
  exact ⟨hok, hagain.trans (hself.trans hstore.symm)⟩

end Session

/-- Lookups answer by the name.  Then two batches can be attached to a disk one after the other
exactly if they can be attached as one, and the session that is left is the same in every respect.
A batch that has been attached can be attached again, which changes nothing in the store.

A batch that is attached leaves the partitions in natural order, under the names that there were and
those of the batch.  Of each name the last record in the batch counts, with its minor number, and if
there is none the last that the disk had. -/
theorem attach_batches {lookup : Option (Text → Answer)} {answer : Text → Finding}
    (hanswers : AnswersBy lookup answer) (s : Session) (device : Text)
    (batch more : List Partition) :
    let after := s.attach lookup device batch
    let old := (diskOf s.disks device).partitions
    let partitions := (diskOf after.1.disks device).partitions
    ((s.attach lookup device (batch ++ more)).2 = none ↔
      after.2 = none ∧ (after.1.attach lookup device more).2 = none) ∧
    ((s.attach lookup device (batch ++ more)).2 = none →
      s.attach lookup device (batch ++ more) = after.1.attach lookup device more) ∧
    (after.2 = none →
      ((after.1.attach lookup device batch).2 = none ∧
        (after.1.attach lookup device batch).1.SameStore after.1) ∧
      Arranged Partition.name partitions ∧
      (∀ name, name ∈ partitions.map Partition.name ↔
        name ∈ old.map Partition.name ∨ name ∈ batch.map Partition.name) ∧
      ∀ p, p ∈ partitions ↔
        ((lastNamed batch p.name).map (Session.numberedBy lookup answer)).or
          (lastNamed old p.name) = some p) := by
  intro after old partitions
  refine ⟨Session.attach_append_isOk_iff s lookup device batch more, fun hok => ?_, fun hok => ?_⟩
  · obtain ⟨hbatch, hmore⟩ := (Session.attach_append_isOk_iff s lookup device batch more).1 hok
    rw [Session.attach_append (Prod.ext rfl hbatch) (Prod.ext rfl hmore)]
    exact Prod.ext rfl hmore.symm
  · have hname := Session.name_numberedBy lookup answer
    obtain ⟨hsettles, -⟩ := Session.attach_settles hanswers (Prod.ext rfl hok)
    refine ⟨Session.attach_again hanswers (Prod.ext rfl hok), hsettles.1, fun name => ?_,
      fun p => ?_⟩
    · have hnames : (batch.map (Session.numberedBy lookup answer)).map Partition.name =
          batch.map Partition.name := by
        rw [List.map_map]
        exact List.map_congr_left fun p _ => hname p
      rw [hsettles.name_mem_iff, List.map_append, List.mem_append, hnames]
    · rw [hsettles.2, lastNamed_append, lastNamed_map hname]

/-- Two batches for a disk, and both of them as one. -/
theorem attach_batches_ada0 :
    let lookup : Text → Answer := fun _ => .ofLines ["110".toList]
    let known (name : Text) : Partition := { identification := [], name, uuid := "old".toList }
    let s : Session :=
      { disks := [("ada0".toList, { name := "ada0".toList, partitions :=
          [known "ada0p10".toList, known "ada0p2".toList, known "ada0p10".toList] })] }
    let batch := ["ada0p2".toList, "ada0p2".toList].map (blankPartition [])
    let more := ["ada0p1".toList].map (blankPartition [])
    let attach (batch : List Partition) (s : Session) := s.attach (some lookup) "ada0".toList batch
    attach (batch ++ more) s = attach more (attach batch s).1 ∧
      (attach batch (attach batch s).1).1.SameStore (attach batch s).1 ∧
      { blankPartition [] "ada0p2".toList with minorNumber := 110 } ∈
        (diskOf (attach batch s).1.disks "ada0".toList).partitions := by
  intro lookup known s batch more attach
  have hanswers : AnswersBy (some lookup) fun _ => .ok (some ["110".toList]) := by
    intro l hl name before
    obtain rfl := Option.some.inj hl
    rfl
  have hall : (attach (batch ++ more) s).2 = none := rfl
  have hbatch : (attach batch s).2 = none := rfl
  obtain ⟨-, hone, hafter⟩ := attach_batches hanswers s "ada0".toList batch more
  obtain ⟨⟨-, hagain⟩, -, -, hpartitions⟩ := hafter hbatch
  exact ⟨hone hall, hagain, (hpartitions _).2 (by decide)⟩

end StorageInventory
