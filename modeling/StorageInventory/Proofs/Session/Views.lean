import Mathlib.Tactic
import StorageInventory.Proofs.Collection.Stages
import StorageInventory.Proofs.Telling
import StorageInventory.Provider

/-!
# Views that a collection does not change

The passes change the disks, the mount points and the counts, and they add to the journal: notices
of their own, and the entries that the sources leave.  A view of a session that overlooks all this
is the same after every pass.  The names that were asked for are such a view, as long as nothing is
attached; whether something was closed is one to the end, if no source closes anything.

* `Provider.Tells` — all that a provider tells is of a kind,
* `Session.Overlooks` — what a view does not see, with the kind of entries that it does not see,
* `view_gather` — such a view stays through all that comes before the partition geometry,
* `view_collect` — it stays to the end, if it does not see what was asked for either,
* `closes_collect` — a collection closes nothing that its sources leave open.
-/

namespace StorageInventory

open Name Pass

/-! ## What providers tell -/

/-- All answers of the provider add only entries of a kind. -/
structure Provider.Tells (kind : JournalEntry → Prop) (p : Provider) : Prop where
  devices : p.devices.Tells kind
  mounts : p.mounts.Tells kind
  counters : p.counters.Tells kind
  diskGeometry : p.diskGeometry.Tells kind
  partitionGeometry : p.partitionGeometry.Tells kind
  minor : ∀ name, (p.minor name).Tells kind

namespace Provider

variable {kind : JournalEntry → Prop} (hnotice : ∀ notice, kind (.notice notice))
include hnotice

/-- Reading a file tells at most that it cannot be read. -/
theorem tells_readLinesFrom (shown : Settings.Value) (found : Except Fault (List UInt8)) :
    (Host.readLinesFrom shown found).Tells kind := by
  intro before
  cases found with
  | ok bytes => exact List.forall_mem_nil _
  | error fault =>
    rw [Host.readLinesFrom]
    split
    · exact List.forall_mem_singleton.2 (hnotice _)
    · exact List.forall_mem_nil _

/-- A command is told of, and at most that it came to nothing. -/
theorem tells_runCommand (hcall : ∀ call, kind (.call call))
    (run : List Text → Host.CommandResult) (timeout : Int) (words : List Text) :
    (Host.runCommand run timeout words).Tells kind := by
  have hone : ∀ call, ∀ entry ∈ [JournalEntry.call call], kind entry :=
    fun call => List.forall_mem_singleton.2 (hcall call)
  have htwo : ∀ call notice, ∀ entry ∈ [JournalEntry.call call, .notice notice], kind entry :=
    fun call notice => List.forall_mem_cons.2 ⟨hcall call, List.forall_mem_singleton.2 (hnotice _)⟩
  intro before
  rw [Host.runCommand]
  cases run words with
  | missing => exact htwo _ _
  | timedOut => exact htwo _ _
  | refused fault => exact htwo _ _
  | failed fault => exact hone _
  | finished output complaint status =>
    dsimp only
    split_ifs
    · exact htwo _ _
    · exact hone _

omit hnotice in
/-- Refusing a name tells nothing. -/
theorem tells_checkedLookup {lookup : Text → Answer} (h : ∀ name, (lookup name).Tells kind)
    (name : Text) : (checkedLookup lookup name).Tells kind := by
  rw [checkedLookup]
  cases checkPartitionName name with
  | error fault => exact fun _ => List.forall_mem_nil _
  | ok _ => exact h name

/-- The live provider runs commands. -/
theorem tells_live (hcall : ∀ call, kind (.call call)) (run : List Text → Host.CommandResult)
    (timeout : Int) : (live run timeout).Tells kind where
  devices := (tells_runCommand hnotice hcall run timeout _).map _
  mounts := tells_runCommand hnotice hcall run timeout _
  counters := tells_runCommand hnotice hcall run timeout _
  diskGeometry := tells_runCommand hnotice hcall run timeout _
  partitionGeometry := tells_runCommand hnotice hcall run timeout _
  minor := tells_checkedLookup fun _ => tells_runCommand hnotice hcall run timeout _

/-- The captured provider reads files. -/
theorem tells_captured {files : Telling Host.Tree} (hfiles : files.Tells kind) (directory : Text) :
    (captured files directory).Tells kind := by
  have hask : ∀ path : Text, Telling.Tells kind (do Host.readFileLines (← files).read path) :=
    fun path => hfiles.bind fun tree => tells_readLinesFrom hnotice _ _
  exact
    { devices := (hask _).map _
      mounts := hask _
      counters := hask _
      diskGeometry := hask _
      partitionGeometry := hask _
      minor := tells_checkedLookup fun _ => hask _ }

omit hnotice in
/-- A provider that only fails tells nothing. -/
theorem tells_failing (fault : Fault) : (failing fault).Tells kind := by
  have hanswer : (throw fault : Answer).Tells kind := fun _ => List.forall_mem_nil _
  exact
    { devices := hanswer
      mounts := hanswer
      counters := hanswer
      diskGeometry := hanswer
      partitionGeometry := hanswer
      minor := tells_checkedLookup fun _ => hanswer }

variable {p : Provider}

omit hnotice in
/-- What is told in a language is of the same kinds. -/
theorem Tells.inLanguage (h : p.Tells kind) (t : Translation) : (p.inLanguage t).Tells kind :=
  ⟨h.devices.inLanguage t, h.mounts.inLanguage t, h.counters.inLanguage t,
    h.diskGeometry.inLanguage t, h.partitionGeometry.inLanguage t,
    fun name => (h.minor name).inLanguage t⟩

omit hnotice in
/-- What is told later is of the same kinds. -/
theorem Tells.after (h : p.Tells kind) (before : Journal) : (p.after before).Tells kind :=
  ⟨h.devices.after before, h.mounts.after before, h.counters.after before,
    h.diskGeometry.after before, h.partitionGeometry.after before,
    fun name => (h.minor name).after before⟩

end Provider

/-!
## Views of a session

What a view overlooks is all that the steps of a pass change.  So each of them leaves the view as it
is, and the lemma that says so has the name of the step.
-/

variable {β : Type} {view : Session → β} {kind : JournalEntry → Prop}

/-- The view shows nothing of what a pass changes by itself, and nothing of the entries of a kind,
to which all notices belong. -/
structure Session.Overlooks (view : Session → β) (kind : JournalEntry → Prop) : Prop where
  valid : ∀ s valid, view { s with valid } = view s
  disks : ∀ s disks, view { s with disks } = view s
  mounts : ∀ s mounts, view { s with mounts } = view s
  diagnostics : ∀ s diagnostics, view { s with diagnostics } = view s
  journal : ∀ s entries, (∀ entry ∈ entries, kind entry) →
    view { s with journal := s.journal ++ entries } = view s
  notice : ∀ notice, kind (.notice notice)

namespace Session.Overlooks

variable (h : Overlooks view kind)
include h

theorem record (s : Session) (source name : Text) (n : Int) :
    view (s.record source name n) = view s := h.diagnostics s _

theorem tick (s : Session) (source name : Text) : view (s.tick source name) = view s :=
  h.record s source name 1

theorem tell (s : Session) (notice : Log.Notice) : view (s.tell notice) = view s :=
  h.journal s _ (List.forall_mem_singleton.2 (h.notice notice))

theorem register (s : Session) (device : Text) : view (s.register device) = view s := by
  rw [Session.register]
  split
  · rfl
  · exact h.disks s _

theorem updateDisk (s : Session) (device : Text) (change : Disk → Disk) :
    view (s.updateDisk device change) = view s := h.disks s _

/-- Reading a source shows only what the source tells. -/
theorem fetch (s : Session) (source : Text) {answer : Answer} (htells : answer.Tells kind) :
    view (s.fetch source answer).1 = view s := by
  have hentries := h.journal s _ (htells s.journal)
  rw [Session.fetch]
  rcases hrun : answer.run s.journal with ⟨fault | lines, entries⟩
  · rw [hrun] at hentries
    exact (h.tick _ _ _).trans ((h.tell _ _).trans hentries)
  · rw [hrun] at hentries
    dsimp only
    split
    · exact (h.tick _ _ _).trans hentries
    · exact hentries

/-! ### The passes that attach nothing -/

theorem readMountTable (lines : List Text) (s : Session) :
    view (readMountTable lines s) = view s := by
  have hlines : ∀ t : Session, view (lines.foldl readMountLine t) = view t := by
    induction lines with
    | nil => exact fun _ => rfl
    | cons line lines ih =>
      intro t
      have hline : view (readMountLine t line) = view t := by
        rw [readMountLine]
        cases readMountRow line with
        | none => exact (h.tick _ _ _).trans (h.tick _ _ _)
        | some row => exact (h.mounts _ _).trans (h.tick _ _ _)
      rw [List.foldl_cons, ih, hline]
  exact (hlines { s with mounts := [] }).trans (h.mounts s [])

theorem readCounterLine (s : Session) (line : Text) : view (readCounterLine s line) = view s := by
  rw [Pass.readCounterLine]
  dsimp only
  split
  · rw [h.tick, h.tick]
  · rw [putCounters, h.updateDisk]
    split
    · exact h.tick _ _ _
    · rw [h.record, h.tick]

theorem readCounters (lines : List Text) (s : Session) : view (readCounters lines s) = view s := by
  induction lines generalizing s with
  | nil => rfl
  | cons line lines ih => exact (ih (Pass.readCounterLine s line)).trans (h.readCounterLine s line)

theorem openBlock (source device : Text) (s : Session) :
    view (openBlock source device s) = view s := by
  rw [Pass.openBlock]
  split
  · exact h.register s device
  · rw [h.tick, h.tell]

theorem passOver (source line : Text) (s : Session) : view (passOver source line s) = view s := by
  rw [Pass.passOver]
  split
  · rfl
  · exact h.tick s _ _

theorem readDiskAttribute (disk line : Text) (s : Session) :
    view (readDiskAttribute disk line s) = view s := by
  rw [Pass.readDiskAttribute]
  split_ifs
  · split
    · split
      · exact h.updateDisk _ _ _
      · rw [h.updateDisk, h.tick]
    · exact h.tick _ _ _
  · exact h.updateDisk _ _ _
  · exact h.updateDisk _ _ _
  · rfl

theorem diskStep (scan : DiskScan) (raw : Text) :
    view (scan.step raw).session = view scan.session := by
  rw [DiskScan.step]
  dsimp only
  split
  · rw [h.openBlock, h.tick]
  · split
    · rw [h.passOver, h.tick]
    · rw [h.readDiskAttribute, h.tick]

theorem readDiskGeometry (lines : List Text) (s : Session) :
    view (readDiskGeometry lines s) = view s := by
  have hrun : ∀ scan : DiskScan, view (scan.run lines).session = view scan.session := by
    induction lines with
    | nil => exact fun _ => rfl
    | cons raw rest ih => exact fun scan => (ih (scan.step raw)).trans (h.diskStep scan raw)
  exact hrun { session := s }

theorem mergeInto (s : Session) (disk : Text) (batch : List Partition) :
    view (s.mergeInto disk batch).1 = view s := by
  rw [Session.mergeInto]
  split
  · rfl
  · exact h.disks s _

/-! ### The order of a snapshot -/

theorem sortPartitions (disks : List Disk) (s : Session) :
    view (s.sortPartitions disks).1 = view s := by
  induction disks generalizing s with
  | nil => rfl
  | cons disk disks ih =>
    rw [Session.sortPartitions]
    cases sortByName Partition.name disk.partitions with
    | error fault => rfl
    | ok sorted =>
      have hrest := (ih (s.putDisk { disk with partitions := sorted })).trans (h.disks s _)
      dsimp only
      rw [← Prod.mk.eta (p := Session.sortPartitions disks _)]
      cases (Session.sortPartitions disks (s.putDisk { disk with partitions := sorted })).2 <;>
        exact hrest

theorem snapshot (s : Session) : view s.snapshot.1 = view s := by
  rw [Session.snapshot]
  cases sortByName Disk.name s.disks.values with
  | error fault => rfl
  | ok disks =>
    have hsorted := h.sortPartitions disks s
    dsimp only
    rw [← Prod.mk.eta (p := s.sortPartitions disks)]
    cases (s.sortPartitions disks).2 <;> exact hsorted

end Session.Overlooks

/-- Such a view stays while a collection gathers. -/
theorem view_gather (h : Session.Overlooks view kind) {p : Provider} (hp : p.Tells kind)
    (timestamp : Int) : view (gather p timestamp).1 = view { timestamp } := by
  rw [gather]
  dsimp only
  rw [h.fetch _ _ hp.partitionGeometry, h.readDiskGeometry, h.fetch _ _ hp.diskGeometry,
    h.readCounters, h.fetch _ _ hp.counters, h.readMountTable, h.fetch _ _ hp.mounts, h.valid]
  exact h.fetch _ _ hp.devices

/-! ## Attaching -/

/-- The view shows nothing of the names that were asked for either. -/
structure Session.OverlooksAsked (view : Session → β) (kind : JournalEntry → Prop) : Prop
    extends Session.Overlooks view kind where
  asked : ∀ s asked, view { s with asked } = view s

namespace Session.OverlooksAsked

variable (h : OverlooksAsked view kind) {lookup : Text → Answer}
  (hlookup : ∀ name, (lookup name).Tells kind)
include h hlookup

theorem askMinor (s : Session) (name : Text) : view (s.askMinor lookup name).1 = view s := by
  have hentries := h.journal { s with asked := s.asked ++ [name] } _ (hlookup name s.journal)
  have hasked := hentries.trans (h.asked s _)
  rw [Session.askMinor]
  dsimp only
  split
  · exact hasked
  · exact (h.tick _ _ _).trans hasked
  · exact (h.tick _ _ _).trans ((h.tell _ _).trans hasked)

/-- Resolving a name does not show, whether it can be looked up or not. -/
theorem resolveMinor (s : Session) (name : Text) :
    view (s.resolveMinor lookup name).1 = view s := by
  rw [Session.resolveMinor]
  cases checkPartitionName name with
  | error fault => rfl
  | ok _ => exact h.askMinor hlookup s name

theorem resolveAll (batch : List Partition) (s : Session) :
    view (Session.resolveAll lookup batch s).1 = view s := by
  induction batch generalizing s with
  | nil => rfl
  | cons p rest ih =>
    have hfirst := h.resolveMinor hlookup s p.name
    rw [Session.resolveAll]
    rcases hrun : s.resolveMinor lookup p.name with ⟨t, fault | n⟩
    · rwa [hrun] at hfirst
    · rw [hrun] at hfirst
      have hrest := (ih t).trans hfirst
      dsimp only
      rw [← Prod.mk.eta (p := Session.resolveAll lookup rest t)]
      cases (Session.resolveAll lookup rest t).2 <;> exact hrest

theorem attach (s : Session) (disk : Text) (batch : List Partition) :
    view (s.attach (some lookup) disk batch).1 = view s := by
  have hresolved := h.resolveAll hlookup batch s
  rw [Session.attach]
  rcases hrun : Session.resolveAll lookup batch s with ⟨t, fault | resolved⟩
  · rwa [hrun] at hresolved
  · rw [hrun] at hresolved
    exact (h.mergeInto t disk resolved).trans hresolved

/-! ### The scan of the partition geometry -/

theorem close (scan : PartitionScan) :
    view (scan.close (some lookup)).1.session = view scan.session := by
  rw [PartitionScan.close]
  split
  · rfl
  · exact h.attach hlookup _ _ _

omit hlookup in
theorem readPartitionAttribute (line : Text) (p : Partition) (s : Session) :
    view (readPartitionAttribute line p s).2 = view s := by
  rw [Pass.readPartitionAttribute]
  split
  · split_ifs
    · split
      · rfl
      · exact h.tick s _ _
    · rfl
    · rfl
    · rfl
  · dsimp only
    split
    · rfl
    · exact h.tick s _ _

omit hlookup in
theorem inner (rule : NamingRule) (line : Text) (scan : PartitionScan) :
    view (scan.inner rule line).session = view scan.session := by
  rw [PartitionScan.inner]
  split
  · exact h.passOver _ _ _
  · split_ifs
    · split <;> rfl
    · split
      · exact h.readPartitionAttribute _ _ _
      · rfl

theorem partitionStep (rule : NamingRule) (scan : PartitionScan) (raw : Text) :
    view (scan.step rule (some lookup) raw).1.session = view scan.session := by
  have hline := h.tick scan.session Source.partitionGeometry EventKind.lines
  rw [PartitionScan.step]
  split_ifs
  · have hclosed := (h.close hlookup
      { scan with session := scan.session.tick Source.partitionGeometry EventKind.lines }).trans
      hline
    split
    · next heq => rwa [heq] at hclosed
    · next heq =>
      rw [heq] at hclosed
      exact (h.openBlock _ _ _).trans hclosed
  · exact (h.inner rule _ _).trans hline

/-- A scan of the partition geometry does not show, even if it stops at a fault. -/
theorem partitionRun (rule : NamingRule) (lines : List Text) (scan : PartitionScan) :
    view (PartitionScan.run rule (some lookup) lines scan).1.session = view scan.session := by
  induction lines generalizing scan with
  | nil => rfl
  | cons line rest ih =>
    have hfirst := h.partitionStep hlookup rule scan line
    rw [PartitionScan.run]
    rcases hrun : scan.step rule (some lookup) line with ⟨next, _ | fault⟩
    · rw [hrun] at hfirst
      exact (ih next).trans hfirst
    · rwa [hrun] at hfirst

theorem readPartitionGeometry (rule : NamingRule) (lines : List Text) (s : Session) :
    view (readPartitionGeometry rule (some lookup) lines s).1 = view s := by
  have hrun := h.partitionRun hlookup rule lines { session := s }
  rw [Pass.readPartitionGeometry]
  rcases hscan : PartitionScan.run rule (some lookup) lines { session := s } with ⟨scan, _ | fault⟩
  · rw [hscan] at hrun
    exact (h.close hlookup scan).trans hrun
  · rwa [hscan] at hrun

end Session.OverlooksAsked

/-! ## Whole collections -/

/-- A view that does not see what was asked for stays through a collection. -/
theorem view_collect (h : Session.OverlooksAsked view kind) {p : Provider} (hp : p.Tells kind)
    (rule : NamingRule) (timestamp : Int) :
    view (collect p rule timestamp).1 = view { timestamp } := by
  have hgathered := view_gather h.toOverlooks hp timestamp
  rw [collect_eq, ← hgathered]
  generalize (gather p timestamp).1 = s
  generalize (gather p timestamp).2.partitionGeometry = lines
  have hpass := h.readPartitionGeometry hp.minor rule lines s
  rw [present]
  rcases hrun : readPartitionGeometry rule (some p.minor) lines s with ⟨t, _ | fault⟩
  · rw [hrun] at hpass
    have hsnapshot := (h.snapshot t).trans hpass
    dsimp only
    rcases hshown : t.snapshot with ⟨u, fault | snapshot⟩
    · rwa [hshown] at hsnapshot
    · rw [hshown] at hsnapshot
      exact (h.tell u _).trans hsnapshot
  · rwa [hrun] at hpass

/-- What was asked for is not seen to change before something is attached. -/
theorem Session.overlooks_asked : Session.Overlooks Session.asked fun _ => True where
  valid _ _ := rfl
  disks _ _ := rfl
  mounts _ _ := rfl
  diagnostics _ _ := rfl
  journal _ _ _ := rfl
  notice _ := trivial

/-- Whether something was closed changes only by an entry that says so. -/
theorem Session.overlooks_closes (n : Int) :
    Session.OverlooksAsked (fun s => s.journal.closes n) fun entry => entry.closes n = false where
  valid _ _ := rfl
  disks _ _ := rfl
  mounts _ _ := rfl
  diagnostics _ _ := rfl
  journal s entries hentries := by
    have hnone : entries.any (·.closes n) = false := List.any_eq_false.2 fun entry hentry =>
      Bool.eq_false_iff.1 (hentries entry hentry)
    exact List.any_append.trans (by rw [hnone]; exact Bool.or_false _)
  notice _ := rfl
  asked _ _ := rfl

/-- A collection closes nothing that its sources leave open. -/
theorem closes_collect {n : Int} {p : Provider} (hp : p.Tells fun entry => entry.closes n = false)
    (rule : NamingRule) (timestamp : Int) :
    (collect p rule timestamp).1.journal.closes n = false :=
  view_collect (Session.overlooks_closes n) hp rule timestamp

end StorageInventory
