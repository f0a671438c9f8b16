import Mathlib.Tactic
import StorageInventory.Proofs.Diagnostics.Recording
import StorageInventory.Proofs.Pass.DiskEdits
import StorageInventory.Proofs.Pass.PartitionFaults

/-!
# What the passes count

Every pass records its events in the order of its lines.  Which events these are depends on the
lines, on the devices in scope, and for the partition geometry on the mount points and on which
lookups fail; what is known of the disks, and what was counted before, has no part in it.

* `readMountTable_diagnostics`, `readCounters_diagnostics`, `readDiskGeometry_diagnostics` — the
  events of these passes,
* `readPartitionGeometry_diagnostics` — those of the partition geometry, if it does not fail.

Whether a lookup fails may depend on more than the name that is looked up; what else is counted does
not depend on lookups at all (`readPartitionGeometry_agreeOff`).

The events of a geometry listing follow the scan over it: they are defined for the place where the
scan is, and the inductions go line by line as the scan does.
-/

namespace StorageInventory

open Diagnostics Text

/-- One event of a kind at a source. -/
def event (source kind : Text) : Tally := ⟨source, kind, 1⟩

/-! ## Lookups -/

namespace Session

/-- Whether a lookup fails depends on the name only; without lookups none does. -/
def FailsBy (lookup : Option (Text → Answer)) (failed : Text → Bool) : Prop :=
  match lookup with
  | none => ∀ name, failed name = false
  | some l => ∀ name before, (readMinor name ((l name).run before).1).isRight = failed name

/-- The lookups that fail for some partitions. -/
def lookupEvents (failed : Text → Bool) (batch : List Partition) : List Tally :=
  (batch.filter fun p => failed p.name).map fun _ => event Source.minor EventKind.lookupFailed

/-- Where nothing is looked up, no lookup fails. -/
theorem lookupEvents_of_none {failed : Text → Bool} (h : FailsBy none failed)
    (batch : List Partition) : lookupEvents failed batch = [] := by
  have hnone : ∀ p ∈ batch, ¬ failed p.name = true := fun p _ => by simp [h p.name]
  rw [lookupEvents, List.filter_eq_nil_iff.2 hnone, List.map_nil]

/-- Asking for a minor number counts the lookup if it fails. -/
theorem askMinor_diagnostics {lookup : Text → Answer} {failed : Text → Bool}
    (h : FailsBy (some lookup) failed) (s : Session) (p : Partition) :
    (s.askMinor lookup p.name).1.diagnostics =
      s.diagnostics.recordAll (lookupEvents failed [p]) := by
  have hfailed : (readMinor p.name ((lookup p.name).run s.journal).1).isRight = failed p.name :=
    h p.name s.journal
  rw [askMinor, lookupEvents, List.filter_singleton, ← hfailed]
  dsimp only
  split <;> next heq => rw [heq]; rfl

/-- Resolving a batch counts the lookups that fail. -/
theorem resolveAll_diagnostics {lookup : Text → Answer} {failed : Text → Bool}
    (h : FailsBy (some lookup) failed) {batch resolved : List Partition} {s : Session}
    (hok : (resolveAll lookup batch s).2 = .ok resolved) :
    (resolveAll lookup batch s).1.diagnostics =
      s.diagnostics.recordAll (lookupEvents failed batch) := by
  induction batch generalizing s resolved with
  | nil => rfl
  | cons p rest ih =>
    have hcons : lookupEvents failed (p :: rest) =
        lookupEvents failed [p] ++ lookupEvents failed rest := by
      rw [← List.singleton_append, lookupEvents, List.filter_append, List.map_append]
      rfl
    rw [resolveAll_cons] at hok ⊢
    split_ifs at hok ⊢
    obtain ⟨tail, htail, -⟩ := map_eq_ok_iff.1 hok
    rw [ih htail, askMinor_diagnostics h, hcons, Diagnostics.recordAll_append]

/-- Asking for a minor number counts toward its own source only. -/
theorem askMinor_agreeOff (s : Session) (lookup : Text → Answer) (name : Text) :
    AgreeOff Source.minor (s.askMinor lookup name).1.diagnostics s.diagnostics := by
  rw [askMinor]
  dsimp only
  split
  · exact (congruence_agreeOff _).refl _
  · exact agreeOff_record _ _ _ _
  · exact agreeOff_record _ _ _ _

/-- Resolving a batch counts toward the minor numbers only. -/
theorem resolveAll_agreeOff (lookup : Text → Answer) (batch : List Partition) (s : Session) :
    AgreeOff Source.minor (resolveAll lookup batch s).1.diagnostics s.diagnostics := by
  induction batch generalizing s with
  | nil => exact (congruence_agreeOff _).refl _
  | cons p rest ih =>
    rw [resolveAll_cons]
    split
    · exact (congruence_agreeOff _).trans (ih _) (askMinor_agreeOff s lookup p.name)
    · exact (congruence_agreeOff _).refl _

/-- Merging counts nothing. -/
theorem mergeInto_diagnostics (s : Session) (disk : Text) (batch : List Partition) :
    (s.mergeInto disk batch).1.diagnostics = s.diagnostics := by
  rw [mergeInto]
  split <;> rfl

/-- Attaching a batch records the lookups that fail. -/
theorem attach_diagnostics {lookup : Option (Text → Answer)} {failed : Text → Bool}
    (h : FailsBy lookup failed) {s : Session} {disk : Text} {batch : List Partition}
    (hok : (s.attach lookup disk batch).2 = none) :
    (s.attach lookup disk batch).1.diagnostics =
      s.diagnostics.recordAll (lookupEvents failed batch) := by
  cases lookup with
  | none =>
    rw [lookupEvents_of_none h]
    exact mergeInto_diagnostics s disk batch
  | some lookup =>
    rw [attach, ← Prod.mk.eta (p := resolveAll lookup batch s)] at hok ⊢
    cases hresolved : (resolveAll lookup batch s).2 with
    | error fault => simp [hresolved] at hok
    | ok resolved => exact (mergeInto_diagnostics _ _ _).trans (resolveAll_diagnostics h hresolved)

/-- Attaching a batch counts lookups that fail, and nothing else. -/
theorem attach_agreeOff (s : Session) (lookup : Option (Text → Answer)) (disk : Text)
    (batch : List Partition) :
    AgreeOff Source.minor (s.attach lookup disk batch).1.diagnostics s.diagnostics := by
  cases lookup with
  | none =>
    have hsame : (s.attach none disk batch).1.diagnostics = s.diagnostics :=
      mergeInto_diagnostics s disk batch
    rw [hsame]
    exact (congruence_agreeOff _).refl _
  | some lookup =>
    rw [attach, ← Prod.mk.eta (p := resolveAll lookup batch s)]
    cases (resolveAll lookup batch s).2 with
    | error fault => exact resolveAll_agreeOff lookup batch s
    | ok resolved =>
      dsimp only
      rw [mergeInto_diagnostics]
      exact resolveAll_agreeOff lookup batch s

end Session

namespace Pass

/-! ## The mount table -/

/-- The events of a row of the mount table. -/
def mountLineEvents (line : Text) : List Tally :=
  event Source.mounts EventKind.lines ::
    if (readMountRow line).isSome then [] else [event Source.mounts EventKind.skipped]

/-- A mount row counts the line, and whether it is skipped. -/
theorem readMountLine_diagnostics (s : Session) (line : Text) :
    (readMountLine s line).diagnostics = s.diagnostics.recordAll (mountLineEvents line) := by
  rw [readMountLine, mountLineEvents]
  cases readMountRow line <;> rfl

/-- The mount table records the events of its rows. -/
theorem readMountTable_diagnostics (lines : List Text) (s : Session) :
    (readMountTable lines s).diagnostics =
      s.diagnostics.recordAll (lines.flatMap mountLineEvents) := by
  have hlines : ∀ t : Session, (lines.foldl readMountLine t).diagnostics =
      t.diagnostics.recordAll (lines.flatMap mountLineEvents) := by
    induction lines with
    | nil => exact fun _ => rfl
    | cons line lines ih =>
      intro t
      rw [List.flatMap_cons, Diagnostics.recordAll_append, ← readMountLine_diagnostics]
      exact ih (readMountLine t line)
  exact hlines { s with mounts := [] }

/-! ## Counters -/

/-- The events of a row. -/
def counterLineEvents (valid : Text → Bool) (line : Text) : List Tally :=
  event Source.counters EventKind.lines ::
    match acceptCounterRow valid line with
    | none => [event Source.counters EventKind.skipped]
    | some (device, rest) =>
      let defaulted := (readColumns (device :: rest)).countP Option.isNone
      if defaulted = 0 then [] else [⟨Source.counters, EventKind.defaulted, defaulted⟩]

/-- A counter row counts the line, and what is wrong with it. -/
theorem readCounterLine_diagnostics (s : Session) (line : Text) :
    (readCounterLine s line).diagnostics =
      s.diagnostics.recordAll (counterLineEvents s.isValid line) := by
  have hvalid : (s.tick Source.counters EventKind.lines).isValid = s.isValid := rfl
  rw [readCounterLine, counterLineEvents]
  simp only [hvalid]
  cases acceptCounterRow s.isValid line with
  | none => rfl
  | some row =>
    obtain ⟨device, rest⟩ := row
    dsimp only
    split <;> rfl

/-- The counter listing records the events of its rows. -/
theorem readCounters_diagnostics (lines : List Text) (s : Session) :
    (readCounters lines s).diagnostics =
      s.diagnostics.recordAll (lines.flatMap (counterLineEvents s.isValid)) := by
  induction lines generalizing s with
  | nil => rfl
  | cons line lines ih =>
    have hscope : (readCounterLine s line).isValid = s.isValid :=
      (readCounterLine_sameStore s line).isValid
    rw [List.flatMap_cons, Diagnostics.recordAll_append, ← readCounterLine_diagnostics, ← hscope]
    exact ih (readCounterLine s line)

/-! ## Lines of both geometry listings -/

/-- The events of a header. -/
def openBlockEvents (source : Text) (valid : Text → Bool) (device : Text) : List Tally :=
  if valid device then [] else [event source EventKind.outOfScope]

/-- The events of a line outside all blocks in scope. -/
def passOverEvents (source line : Text) : List Tally :=
  if line = [] then [] else [event source EventKind.ignored]

/-- Opening a block counts a device that is out of scope. -/
theorem openBlock_diagnostics (source device : Text) (s : Session) :
    (openBlock source device s).diagnostics =
      s.diagnostics.recordAll (openBlockEvents source s.isValid device) := by
  rw [openBlock, openBlockEvents]
  split
  · rw [Session.register_eq]
    rfl
  · rfl

/-- A line that is passed over is counted as ignored. -/
theorem passOver_diagnostics (source line : Text) (s : Session) :
    (passOver source line s).diagnostics =
      s.diagnostics.recordAll (passOverEvents source line) := by
  rw [passOver, passOverEvents]
  split <;> rfl

/-! ## Disk geometry -/

/-- The events of a line in a disk's block. -/
def diskAttributeEvents (line : Text) : List Tally :=
  if sizeLabel.isPrefixOf line then
    match (tokens line)[1]? with
    | none => [event Source.diskGeometry EventKind.skipped]
    | some size =>
      if (readSize size).isSome then [] else [event Source.diskGeometry EventKind.defaulted]
  else []

/-- The events of a line that opens no block, given the block that is open. -/
def diskLineEvents (open? : Option Text) (line : Text) : List Tally :=
  match open? with
  | none => passOverEvents Source.diskGeometry line
  | some _ => diskAttributeEvents line

/-- The events of some lines, given the block that is open. -/
def diskEvents (valid : Text → Bool) : Option Text → List Text → List Tally
  | _, [] => []
  | open?, raw :: rest =>
    event Source.diskGeometry EventKind.lines ::
      if isBlockHeader (trim raw) then
        openBlockEvents Source.diskGeometry valid (lastToken raw) ++
          diskEvents valid (if valid (lastToken raw) then some (lastToken raw) else none) rest
      else diskLineEvents open? (trim raw) ++ diskEvents valid open? rest

/-- A line of a disk counts a size that cannot be read. -/
theorem readDiskAttribute_diagnostics (disk line : Text) (s : Session) :
    (readDiskAttribute disk line s).diagnostics =
      s.diagnostics.recordAll (diskAttributeEvents line) := by
  rw [readDiskAttribute, diskAttributeEvents]
  split_ifs
  · rcases tokens line with _ | ⟨first, _ | ⟨size, more⟩⟩
    · rfl
    · rfl
    · cases hsize : readSize size <;> simp [hsize] <;> rfl
  · rfl
  · rfl
  · rfl

/-- A scan counts the events of its lines, in their order. -/
theorem diskRun_diagnostics (lines : List Text) (scan : DiskScan) :
    (scan.run lines).session.diagnostics =
      scan.session.diagnostics.recordAll
        (diskEvents scan.session.isValid scan.current lines) := by
  induction lines generalizing scan with
  | nil => rfl
  | cons raw rest ih =>
    have hrest := ih (scan.step raw)
    have htick : (scan.session.tick Source.diskGeometry EventKind.lines).isValid =
        scan.session.isValid := rfl
    by_cases h : isBlockHeader (trim raw) = true
    · -- a header counts itself, and the rest is read in the block that it opens
      obtain ⟨hcurrent, hstore⟩ := step_header h scan
      have hscope : (scan.step raw).session.isValid = scan.session.isValid := hstore.isValid
      have hstep : (scan.step raw).session = openBlock Source.diskGeometry (lastToken raw)
          (scan.session.tick Source.diskGeometry EventKind.lines) := by
        rw [DiskScan.step, lastToken_trim]
        simp only [h, if_true]
      rw [hcurrent, hscope, hstep, openBlock_diagnostics, htick] at hrest
      rw [diskEvents, if_pos h, Diagnostics.recordAll_cons, Diagnostics.recordAll_append]
      exact hrest
    · have hline : isBlockHeader (trim raw) = false := by simpa using h
      obtain ⟨hcurrent, hstore⟩ := step_line hline scan
      have hscope : (scan.step raw).session.isValid = scan.session.isValid := hstore.isValid
      rw [hcurrent, hscope] at hrest
      rw [diskEvents, if_neg h, Diagnostics.recordAll_cons, Diagnostics.recordAll_append]
      refine hrest.trans (congrArg _ ?_)
      rw [DiskScan.step]
      simp only [hline, Bool.false_eq_true, if_false]
      cases scan.current with
      | none => exact passOver_diagnostics _ _ _
      | some disk => exact readDiskAttribute_diagnostics disk _ _

/-- The disk geometry records the events of its lines. -/
theorem readDiskGeometry_diagnostics (lines : List Text) (s : Session) :
    (readDiskGeometry lines s).diagnostics =
      s.diagnostics.recordAll (diskEvents s.isValid none lines) :=
  diskRun_diagnostics lines { current := none, session := s }

/-! ## Partition geometry -/

/-- The events of a line that describes a partition. -/
def partitionAttributeEvents (line : Text) : List Tally :=
  match (tokens line)[1]? with
  | some value =>
    if sizeLabel.isPrefixOf line && (readSize value).isNone then
      [event Source.partitionGeometry EventKind.defaulted]
    else []
  | none => if line = [] then [] else [event Source.partitionGeometry EventKind.skipped]

/-- The events of a line that opens no block. -/
def innerEvents (line : Text) (state : PartitionState) : List Tally :=
  match state with
  | .noEntity => passOverEvents Source.partitionGeometry line
  | .inDisk _ _ => []
  | .inPartition _ _ _ => if includes nameMark line then [] else partitionAttributeEvents line

/-- The state after a line that opens no block. -/
def stateAfter (rule : NamingRule) (mounts : Table Text) (line : Text) (state : PartitionState) :
    PartitionState :=
  (PartitionScan.inner rule line { state, session := { mounts } }).state

/-- The events of some lines, given where the scan is. -/
def partitionEvents (rule : NamingRule) (valid : Text → Bool) (mounts : Table Text)
    (failed : Text → Bool) : PartitionState → List Text → List Tally
  | state, [] => Session.lookupEvents failed state.batch
  | state, raw :: rest =>
    event Source.partitionGeometry EventKind.lines ::
      if isBlockHeader (trim raw) then
        Session.lookupEvents failed state.batch ++
          openBlockEvents Source.partitionGeometry valid (lastToken raw) ++
            partitionEvents rule valid mounts failed
              (if valid (lastToken raw) then .inDisk (lastToken raw) [] else .noEntity) rest
      else
        innerEvents (trim raw) state ++
          partitionEvents rule valid mounts failed (stateAfter rule mounts (trim raw) state) rest

/-- A line of a partition counts a size that cannot be read, or that it is ignored. -/
theorem readPartitionAttribute_diagnostics (line : Text) (p : Partition) (s : Session) :
    (readPartitionAttribute line p s).2.diagnostics =
      s.diagnostics.recordAll (partitionAttributeEvents line) := by
  rw [readPartitionAttribute, partitionAttributeEvents]
  rcases tokens line with _ | ⟨first, _ | ⟨value, more⟩⟩
  · dsimp only
    split <;> rfl
  · dsimp only
    split <;> rfl
  · by_cases hsize : sizeLabel.isPrefixOf line = true
    · cases hvalue : readSize value <;> simp [hsize, hvalue]
      rfl
    · simp only [hsize, Bool.false_and, Bool.false_eq_true, if_false]
      split_ifs <;> rfl

/-- A line that opens no block changes what is counted, and the state. -/
theorem inner_frame (rule : NamingRule) (line : Text) (scan : PartitionScan) :
    (scan.inner rule line).session.Alike scan.session ∧
      (scan.inner rule line).session.diagnostics =
        scan.session.diagnostics.recordAll (innerEvents line scan.state) ∧
      (scan.inner rule line).state = stateAfter rule scan.session.mounts line scan.state := by
  obtain ⟨state, s⟩ := scan
  rw [stateAfter, PartitionScan.inner, PartitionScan.inner]
  cases state with
  | noEntity => exact ⟨passOver_alike _ _ _, passOver_diagnostics _ _ _, rfl⟩
  | inDisk disk complete =>
    dsimp only [PartitionState.disk?]
    split
    · cases rule line disk <;> exact ⟨.refl s, rfl, rfl⟩
    · exact ⟨.refl s, rfl, rfl⟩
  | inPartition disk complete pending =>
    dsimp only [PartitionState.disk?]
    split
    · next hmark =>
      have hnone : innerEvents line (.inPartition disk complete pending) = [] := if_pos hmark
      rw [hnone]
      cases rule line disk <;> exact ⟨.refl s, rfl, rfl⟩
    · next hmark =>
      have hattribute : innerEvents line (.inPartition disk complete pending) =
          partitionAttributeEvents line := if_neg hmark
      rw [hattribute]
      obtain ⟨hpartition, halike⟩ := readPartitionAttribute_eq line pending s
      refine ⟨halike, readPartitionAttribute_diagnostics line pending s, ?_⟩
      -- what a line says about a partition does not depend on the session
      dsimp only
      rw [hpartition, (readPartitionAttribute_eq line pending _).1]

variable {lookup : Option (Text → Answer)} {failed : Text → Bool}

/-- Up to a relation, attaching a batch that does not fail counts the lookups that do. -/
def CountsLookups (R : Diagnostics → Diagnostics → Prop) (lookup : Option (Text → Answer))
    (failed : Text → Bool) : Prop :=
  ∀ (s : Session) (disk : Text) (batch : List Partition), (s.attach lookup disk batch).2 = none →
    R (s.attach lookup disk batch).1.diagnostics
      (s.diagnostics.recordAll (Session.lookupEvents failed batch))

/-- If which lookups fail depends on the names only, attaching counts them exactly. -/
theorem countsLookups_of_failsBy (h : Session.FailsBy lookup failed) :
    CountsLookups Eq lookup failed := fun _ _ _ hok => Session.attach_diagnostics h hok

/-- Whatever the lookups give, attaching counts nothing off their own source. -/
theorem countsLookups_agreeOff (lookup : Option (Text → Answer)) :
    CountsLookups (AgreeOff Source.minor) lookup fun _ => false := by
  intro s disk batch _
  have hnone : Session.lookupEvents (fun _ => false) batch = [] :=
    Session.lookupEvents_of_none (fun _ => rfl) batch
  rw [hnone]
  exact Session.attach_agreeOff s lookup disk batch

variable {R : Diagnostics → Diagnostics → Prop}

/-- Closing a block counts the lookups of its batch. -/
theorem attachOpen_counts (hR : Congruence R) (h : CountsLookups R lookup failed)
    {state : PartitionState} {s : Session}
    (hok : (attachOpen lookup state.disk? state.batch s).2 = none) :
    R (attachOpen lookup state.disk? state.batch s).1.diagnostics
      (s.diagnostics.recordAll (Session.lookupEvents failed state.batch)) := by
  cases state with
  | noEntity => exact hR.refl _
  | inDisk disk complete => exact h s disk _ hok
  | inPartition disk complete pending => exact h s disk _ hok

/-- Closing a block leaves the scope and the mount points. -/
theorem attachOpen_frame {open? : Option Text} {batch : List Partition} {s : Session}
    (hok : (attachOpen lookup open? batch s).2 = none) :
    (attachOpen lookup open? batch s).1.valid = s.valid ∧
      (attachOpen lookup open? batch s).1.mounts = s.mounts := by
  cases open? with
  | none => exact ⟨rfl, rfl⟩
  | some disk =>
    obtain ⟨_, _, -, -, -, hstore⟩ := Session.attach_ok hok
    exact ⟨hstore.valid, hstore.mounts⟩

/-- There is no fault after going on exactly if there is none before and none in what follows. -/
theorem goOn_isOk_iff {x : Session × Option Fault} {next : Session → Session × Option Fault} :
    (goOn x next).2 = none ↔ x.2 = none ∧ (next x.1).2 = none := by
  obtain ⟨s, _ | fault⟩ := x
  · exact (and_iff_right rfl).symm
  · simp [goOn]

/-- A scan to its end counts the events of its lines and the lookups on the way. -/
theorem conclude_counts (hR : Congruence R) (h : CountsLookups R lookup failed) {rule : NamingRule}
    {lines : List Text} {scan : PartitionScan} (hok : (conclude rule lookup lines scan).2 = none) :
    R (conclude rule lookup lines scan).1.diagnostics
      (scan.session.diagnostics.recordAll
        (partitionEvents rule scan.session.isValid scan.session.mounts failed scan.state
          lines)) := by
  induction lines generalizing scan with
  | nil =>
    have hend : conclude rule lookup [] scan =
        attachOpen lookup scan.state.disk? scan.state.batch scan.session := close_eq lookup scan
    rw [hend] at hok ⊢
    exact attachOpen_counts hR h hok
  | cons raw rest ih =>
    by_cases hheader : isBlockHeader (trim raw) = true
    · -- the batch of the open block is looked up, then the header counts itself
      rw [conclude_header hheader] at hok ⊢
      obtain ⟨hattach, hrest⟩ := goOn_isOk_iff.1 hok
      rw [goOn_of_isOk hattach]
      have hcounts := attachOpen_counts hR h hattach
      obtain ⟨hvalid, hmounts⟩ := attachOpen_frame hattach
      generalize attachOpen lookup scan.state.disk? scan.state.batch
        (scan.session.tick Source.partitionGeometry EventKind.lines) = attached at *
      have hopen := openBlock_frame Source.partitionGeometry (lastToken raw) attached.1
      have hscope : attached.1.isValid = scan.session.isValid := Session.isValid_congr hvalid
      have hscope' : (openBlock Source.partitionGeometry (lastToken raw) attached.1).isValid =
          scan.session.isValid := (Session.isValid_congr hopen.1).trans hscope
      have hmounts' : (openBlock Source.partitionGeometry (lastToken raw) attached.1).mounts =
          scan.session.mounts := hopen.2.trans hmounts
      rw [partitionEvents, if_pos hheader, Diagnostics.recordAll_cons, Diagnostics.recordAll_append,
        Diagnostics.recordAll_append]
      refine hR.trans (ih hrest) ?_
      rw [PartitionScan.enter]
      dsimp only
      rw [hscope', hmounts', openBlock_diagnostics, hscope]
      exact hR.recordAll (hR.recordAll hcounts _) _
    · have hline : isBlockHeader (trim raw) = false := by simpa using hheader
      rw [conclude_line hline] at hok ⊢
      obtain ⟨halike, hcounts, hstate⟩ := inner_frame rule (trim raw)
        ⟨scan.state, scan.session.tick Source.partitionGeometry EventKind.lines⟩
      have hrest := ih hok
      rw [halike.sameStore.isValid, halike.sameStore.mounts, hcounts, hstate] at hrest
      rw [partitionEvents, if_neg hheader, Diagnostics.recordAll_cons, Diagnostics.recordAll_append]
      exact hrest

/-- A pass over partitions counts the events of its lines and the lookups on the way. -/
theorem readPartitionGeometry_counts (hR : Congruence R) (h : CountsLookups R lookup failed)
    {rule : NamingRule} {lines : List Text} {s : Session}
    (hok : (readPartitionGeometry rule lookup lines s).2 = none) :
    R (readPartitionGeometry rule lookup lines s).1.diagnostics
      (s.diagnostics.recordAll
        (partitionEvents rule s.isValid s.mounts failed .noEntity lines)) := by
  rw [readPartitionGeometry_eq_conclude] at hok ⊢
  exact conclude_counts hR h hok

/-- The pass over partition geometry, if it does not fail, records the events of its lines. -/
theorem readPartitionGeometry_diagnostics (h : Session.FailsBy lookup failed) {rule : NamingRule}
    {lines : List Text} {s : Session} (hok : (readPartitionGeometry rule lookup lines s).2 = none) :
    (readPartitionGeometry rule lookup lines s).1.diagnostics =
      s.diagnostics.recordAll
        (partitionEvents rule s.isValid s.mounts failed .noEntity lines) :=
  readPartitionGeometry_counts congruence_eq (countsLookups_of_failsBy h) hok

/-- Whatever the lookups answer, the pass records the same events but for theirs. -/
theorem readPartitionGeometry_agreeOff {rule : NamingRule} {lines : List Text} {s : Session}
    (hok : (readPartitionGeometry rule lookup lines s).2 = none) :
    AgreeOff Source.minor (readPartitionGeometry rule lookup lines s).1.diagnostics
      (s.diagnostics.recordAll
        (partitionEvents rule s.isValid s.mounts (fun _ => false) .noEntity lines)) :=
  readPartitionGeometry_counts (congruence_agreeOff _) (countsLookups_agreeOff lookup) hok

end Pass

end StorageInventory
