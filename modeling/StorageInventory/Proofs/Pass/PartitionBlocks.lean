import Mathlib.Tactic
import StorageInventory.Pass.PartitionGeometry
import StorageInventory.Proofs.Pass.Sections
import StorageInventory.Proofs.Store.Attaching
import StorageInventory.Proofs.Text.Pieces

/-!
# Partition geometry, block by block

The pass over partition geometry reads one line at a time.  Here it is said what a whole block
means: its body is cut at the lines with the name mark, each section that the naming rule accepts
describes one partition, and the last line with a label gives the value.  `readBlocks` reads a
listing block by block, and `readPartitionGeometry_agrees` says that the pass does the same but for
what it counts.

The invariant is `continued`: what the partitions of the open block will be, given the lines up to
the next header.  Every line that opens no block keeps it (`attachOpen_inner`), and at the end of
the block it is the batch that is attached.
-/

namespace StorageInventory.Pass

open Text

/-! ## What a block says -/

/-- The second word of a line with a label. -/
def labelled (label line : Text) : Option Text :=
  if label.isPrefixOf line then (tokens line)[1]? else none

/-- The value that a label has in some lines: that of the last one with the label and a value. -/
def lastValue (label : Text) (lines : List Text) : Option Text :=
  (lines.filterMap (labelled label)).getLast?

/-- What lines say about a partition; what they do not mention stays as it is. -/
def fill (lines : List Text) (p : Partition) : Partition :=
  { p with
    sizeBytes := ((lastValue sizeLabel lines).map fun size => (readSize size).getD 0).getD
      p.sizeBytes
    uuid := (lastValue uuidLabel lines).getD p.uuid
    kind := (lastValue typeLabel lines).getD p.kind }

@[simp] theorem fill_nil (p : Partition) : fill [] p = p := rfl

/-- The partition of a name before any line describes it. -/
def blankPartition (mounts : Table Text) (name : Text) : Partition :=
  { identification := name, name := name, mountPoint := (mounts.get? name).getD [] }

/-- The partition that a section of a disk's block describes, if the rule accepts its first line. -/
def describe (rule : NamingRule) (mounts : Table Text) (disk : Text) (s : Text × List Text) :
    Option Partition :=
  (rule s.1 disk).map fun name => fill s.2 (blankPartition mounts name)

/-- The partitions of a block, in the order of its lines. -/
def Block.partitions (rule : NamingRule) (mounts : Table Text) (b : Block) : List Partition :=
  (sections (includes nameMark) b.body).2.filterMap (describe rule mounts b.device)

/-- The names that the rule accepts in a block: what it makes of the lines with the mark, in
order. -/
def Block.names (rule : NamingRule) (b : Block) : List Text :=
  (b.body.filter (includes nameMark)).filterMap (rule · b.device)

/-- The names of a block's partitions are those that the rule accepts. -/
theorem Block.map_name_partitions (rule : NamingRule) (mounts : Table Text) (b : Block) :
    (b.partitions rule mounts).map Partition.name = b.names rule := by
  have hname : ∀ s, (describe rule mounts b.device s).map Partition.name = rule s.1 b.device := by
    intro s
    rw [describe, Option.map_map]
    cases rule s.1 b.device <;> rfl
  rw [Block.partitions, Block.names, List.map_filterMap, ← map_fst_sections, List.filterMap_map]
  exact List.filterMap_congr fun s _ => hname s

/-- The names that the rule accepts in blocks in scope, in the order of the lines. -/
def acceptedNames (rule : NamingRule) (valid : Text → Bool) (lines : List Text) : List Text :=
  (kept valid (blocksOf lines)).flatMap (Block.names rule)

/-! ## Attributes -/

/-- The later lines are looked at first. -/
theorem lastValue_append (label : Text) (a b : List Text) :
    lastValue label (a ++ b) = (lastValue label b).or (lastValue label a) := by
  rw [lastValue, List.filterMap_append, List.getLast?_append, lastValue, lastValue]

/-- Of a single line, its value is the last. -/
theorem lastValue_singleton (label line : Text) : lastValue label [line] = labelled label line := by
  rw [lastValue, List.filterMap_cons]
  cases labelled label line <;> rfl

/-- A first line gives its value unless a later one does. -/
theorem lastValue_cons (label line : Text) (rest : List Text) :
    lastValue label (line :: rest) = (lastValue label rest).or (labelled label line) := by
  rw [← List.singleton_append, lastValue_append, lastValue_singleton]

/-- Labels that begin with different characters are not on one line. -/
theorem labelled_eq_none {label other line : Text} (h : startApart label other = true)
    (hline : label.isPrefixOf line = true) : labelled other line = none := by
  rw [labelled, isPrefixOf_of_startApart h hline]
  rfl

/-- A line with the label has its second word as the value. -/
theorem labelled_eq_getElem {label line : Text} (h : label.isPrefixOf line = true) :
    labelled label line = (tokens line)[1]? := by
  rw [labelled, if_pos h]

/-- A line without the label has no value for it. -/
theorem labelled_of_not_prefix {label line : Text} (h : ¬ label.isPrefixOf line = true) :
    labelled label line = none := by
  rw [labelled, if_neg h]

/-- A line without a second word has no value. -/
theorem labelled_of_short {label line : Text} (h : (tokens line)[1]? = none) :
    labelled label line = none := by
  rw [labelled, h, ite_self]

/-- Reading a line of a partition does what the line says, and may count. -/
theorem readPartitionAttribute_eq (line : Text) (p : Partition) (s : Session) :
    (readPartitionAttribute line p s).1 = fill [line] p ∧
      (readPartitionAttribute line p s).2.Alike s := by
  rw [readPartitionAttribute, fill, lastValue_singleton, lastValue_singleton, lastValue_singleton]
  split
  · next first value more htokens =>
    have hvalue : (tokens line)[1]? = some value := by rw [htokens]; rfl
    -- no two labels begin alike, so the first that fits is the only one
    by_cases hsize : sizeLabel.isPrefixOf line = true
    · have huuid : labelled uuidLabel line = none := labelled_eq_none rfl hsize
      have htype : labelled typeLabel line = none := labelled_eq_none rfl hsize
      rw [if_pos hsize, labelled_eq_getElem hsize, hvalue, huuid, htype]
      cases hread : readSize value with
      | none => exact ⟨by simp [hread], Session.alike_tick s _ _⟩
      | some n => exact ⟨by simp [hread], .refl s⟩
    rw [if_neg hsize, labelled_of_not_prefix hsize]
    by_cases huuid : uuidLabel.isPrefixOf line = true
    · have htype : labelled typeLabel line = none := labelled_eq_none rfl huuid
      rw [if_pos huuid, labelled_eq_getElem huuid, hvalue, htype]
      exact ⟨rfl, .refl s⟩
    rw [if_neg huuid, labelled_of_not_prefix huuid]
    by_cases htype : typeLabel.isPrefixOf line = true
    · rw [if_pos htype, labelled_eq_getElem htype, hvalue]
      exact ⟨rfl, .refl s⟩
    · rw [if_neg htype, labelled_of_not_prefix htype]
      exact ⟨rfl, .refl s⟩
  · next hshort =>
    have hvalue : (tokens line)[1]? = none := by
      rcases htokens : tokens line with _ | ⟨first, _ | ⟨value, more⟩⟩
      · rfl
      · rfl
      · exact absurd htokens (hshort first value more)
    rw [labelled_of_short hvalue, labelled_of_short hvalue, labelled_of_short hvalue]
    refine ⟨rfl, ?_⟩
    dsimp only
    split
    · exact .refl s
    · exact Session.alike_tick s _ _

/-- The first of some lines can be read before the others. -/
theorem fill_cons (line : Text) (rest : List Text) (p : Partition) :
    fill (line :: rest) p = fill rest (fill [line] p) := by
  have hcons := fun label => lastValue_cons label line rest
  simp only [fill, hcons, lastValue_singleton]
  cases lastValue sizeLabel rest <;> cases lastValue uuidLabel rest <;>
    cases lastValue typeLabel rest <;> simp

/-! ## The scan -/

/-- The partitions of the open block, given the lines up to the next header. -/
def continued (rule : NamingRule) (mounts : Table Text) (state : PartitionState)
    (lines : List Text) : List Partition :=
  let (lead, parts) := sections (includes nameMark) lines
  state.complete ++ (state.pending?.map (fill lead)).toList ++
    match state.disk? with
    | none => []
    | some disk => parts.filterMap (describe rule mounts disk)

/-- Where no lines follow, the open block has its batch. -/
theorem continued_nil (rule : NamingRule) (mounts : Table Text) (state : PartitionState) :
    continued rule mounts state [] = state.batch := by
  rw [continued, sections_nil, PartitionState.batch]
  cases state <;> simp [PartitionState.disk?, PartitionState.pending?]

/-- A line that is passed over changes nothing but counts. -/
theorem passOver_alike (source line : Text) (s : Session) : (passOver source line s).Alike s := by
  rw [passOver]
  split
  · exact .refl s
  · exact Session.alike_tick s _ _

/-- A line with the name mark ends the partition before it, and starts one if the rule says so. -/
theorem continued_mark {line disk : Text} (hmark : includes nameMark line = true)
    (rule : NamingRule) (rest : List Text) {scan : PartitionScan}
    (hdisk : scan.state.disk? = some disk) :
    (scan.inner rule line).session = scan.session ∧
      (scan.inner rule line).state.disk? = some disk ∧
      continued rule scan.session.mounts (scan.inner rule line).state rest =
        continued rule scan.session.mounts scan.state (line :: rest) := by
  rw [PartitionScan.inner, hdisk]
  dsimp only
  rw [if_pos hmark, continued, continued, sections_head hmark, hdisk]
  dsimp only
  rw [List.filterMap_cons, describe]
  cases hrule : rule line disk with
  | none =>
    refine ⟨rfl, rfl, ?_⟩
    cases scan.state <;> simp [PartitionState.batch, PartitionState.complete, PartitionState.disk?,
      PartitionState.pending?]
  | some name =>
    refine ⟨rfl, rfl, ?_⟩
    cases scan.state <;> simp [PartitionState.batch, PartitionState.complete, PartitionState.disk?,
      PartitionState.pending?, newPartition, blankPartition]

/-- Any other line of the block describes the partition that is open, if one is. -/
theorem continued_attribute {line disk : Text} (hmark : includes nameMark line = false)
    (rule : NamingRule) (rest : List Text) {scan : PartitionScan}
    (hdisk : scan.state.disk? = some disk) :
    (scan.inner rule line).session.Alike scan.session ∧
      (scan.inner rule line).state.disk? = some disk ∧
      continued rule scan.session.mounts (scan.inner rule line).state rest =
        continued rule scan.session.mounts scan.state (line :: rest) := by
  rw [PartitionScan.inner, hdisk]
  dsimp only
  rw [if_neg (by simp [hmark]), continued, continued, sections_line hmark]
  obtain ⟨state, s⟩ := scan
  cases state with
  | noEntity => simp [PartitionState.disk?] at hdisk
  | inDisk other complete => exact ⟨.refl s, hdisk, rfl⟩
  | inPartition other complete pending =>
    obtain ⟨hpartition, halike⟩ := readPartitionAttribute_eq line pending s
    refine ⟨halike, hdisk, ?_⟩
    simp only [PartitionState.complete, PartitionState.pending?, PartitionState.disk?,
      Option.map_some, hpartition]
    rw [fill_cons line (sections (includes nameMark) rest).1]

/-! ## Block by block -/

/-- The results of two readings differ in what they count at most. -/
def Agrees (x y : Session × Option Fault) : Prop := x.1.Alike y.1 ∧ x.2 = y.2

/-- Go on with a session, unless there is a fault. -/
def goOn (x : Session × Option Fault) (next : Session → Session × Option Fault) :
    Session × Option Fault :=
  match x with
  | (s, some fault) => (s, some fault)
  | (s, none) => next s

/-- A reading without a fault goes on with its session. -/
theorem goOn_of_isOk {x : Session × Option Fault} (h : x.2 = none)
    (next : Session → Session × Option Fault) : goOn x next = next x.1 := by
  obtain ⟨s, fault⟩ := x
  obtain rfl : fault = none := h
  rfl

/-- A reading with a fault does not go on. -/
theorem goOn_of_fault {x : Session × Option Fault} {fault : Fault} (h : x.2 = some fault)
    (next : Session → Session × Option Fault) : goOn x next = x := by
  obtain ⟨s, other⟩ := x
  obtain rfl : other = some fault := h
  rfl

/-- Read one block. -/
def readBlock (rule : NamingRule) (lookup : Option (Text → Answer)) (b : Block) (s : Session) :
    Session × Option Fault :=
  let s := openBlock Source.partitionGeometry b.device s
  if s.isValid b.device then s.attach lookup b.device (b.partitions rule s.mounts) else (s, none)

/-- Read blocks in order, up to the first that fails. -/
def readBlocks (rule : NamingRule) (lookup : Option (Text → Answer)) :
    List Block → Session → Session × Option Fault
  | [], s => (s, none)
  | b :: rest, s => goOn (readBlock rule lookup b s) (readBlocks rule lookup rest)

theorem Agrees.trans {x y z : Session × Option Fault} (hxy : Agrees x y) (hyz : Agrees y z) :
    Agrees x z :=
  ⟨hxy.1.trans hyz.1, hxy.2.trans hyz.2⟩

/-- Readings that agree still do so when both go on. -/
theorem Agrees.goOn {x y : Session × Option Fault} (h : Agrees x y)
    {f g : Session → Session × Option Fault} (hnext : ∀ s t, s.Alike t → Agrees (f s) (g t)) :
    Agrees (goOn x f) (goOn y g) := by
  obtain ⟨s, fault⟩ := x
  obtain ⟨t, other⟩ := y
  obtain ⟨hsession, rfl⟩ : s.Alike t ∧ fault = other := h
  cases fault with
  | some fault => exact ⟨hsession, rfl⟩
  | none => exact hnext s t hsession

/-- Opening a block goes alike for sessions that differ in counts only. -/
theorem openBlock_alike {s t : Session} (h : s.Alike t) (source device : Text) :
    (openBlock source device s).Alike (openBlock source device t) := by
  rw [openBlock, openBlock, h.sameStore.isValid]
  split
  · exact h.register device
  · exact (h.tell _).tick _ _

/-- A block is read alike from sessions that differ in counts only. -/
theorem readBlock_alike {s t : Session} (h : s.Alike t) (rule : NamingRule)
    (lookup : Option (Text → Answer)) (b : Block) :
    Agrees (readBlock rule lookup b s) (readBlock rule lookup b t) := by
  have hopen := openBlock_alike h Source.partitionGeometry b.device
  rw [readBlock, readBlock]
  simp only [hopen.sameStore.isValid, hopen.sameStore.mounts]
  split
  · exact Session.attach_alike hopen lookup b.device _
  · exact ⟨hopen, rfl⟩

/-- Blocks are read alike from sessions that differ in counts only. -/
theorem readBlocks_alike {s t : Session} (h : s.Alike t) (rule : NamingRule)
    (lookup : Option (Text → Answer)) (blocks : List Block) :
    Agrees (readBlocks rule lookup blocks s) (readBlocks rule lookup blocks t) := by
  induction blocks generalizing s t with
  | nil => exact ⟨h, rfl⟩
  | cons b rest ih => exact (readBlock_alike h rule lookup b).goOn fun _ _ hst => ih hst

/-- Opening a block leaves the scope and the mount points. -/
theorem openBlock_frame (source device : Text) (s : Session) :
    (openBlock source device s).valid = s.valid ∧
      (openBlock source device s).mounts = s.mounts := by
  rw [openBlock]
  split
  · rw [Session.register]
    split <;> exact ⟨rfl, rfl⟩
  · exact ⟨rfl, rfl⟩

/-! ## The pass -/

/-- The scan of the lines to their end, where the open block is closed. -/
def conclude (rule : NamingRule) (lookup : Option (Text → Answer)) (lines : List Text)
    (scan : PartitionScan) : Session × Option Fault :=
  match PartitionScan.run rule lookup lines scan with
  | (scan, some fault) => (scan.session, some fault)
  | (scan, none) => ((scan.close lookup).1.session, (scan.close lookup).2)

/-- Attach the batch of the open block, if one is open. -/
def attachOpen (lookup : Option (Text → Answer)) (open? : Option Text) (batch : List Partition)
    (s : Session) : Session × Option Fault :=
  match open? with
  | none => (s, none)
  | some disk => s.attach lookup disk batch

/-- Closing a block attaches its batch. -/
theorem close_eq (lookup : Option (Text → Answer)) (scan : PartitionScan) :
    ((scan.close lookup).1.session, (scan.close lookup).2) =
      attachOpen lookup scan.state.disk? scan.state.batch scan.session := by
  cases h : scan.state.disk? <;> simp [PartitionScan.close, attachOpen, h]

/-- No block is open after one is closed. -/
theorem close_state (lookup : Option (Text → Answer)) (scan : PartitionScan) :
    (scan.close lookup).1.state = .noEntity := by
  rw [PartitionScan.close]
  split <;> rfl

/-- A batch is attached alike to sessions that differ in counts only. -/
theorem attachOpen_alike {s t : Session} (h : s.Alike t) (lookup : Option (Text → Answer))
    (open? : Option Text) (batch : List Partition) :
    Agrees (attachOpen lookup open? batch s) (attachOpen lookup open? batch t) := by
  cases open? with
  | none => exact ⟨h, rfl⟩
  | some disk => exact Session.attach_alike h lookup disk batch

/-- A header closes the open block, and the scan goes on in the block that it opens. -/
theorem conclude_header {raw : Text} (h : isBlockHeader (trim raw) = true) (rule : NamingRule)
    (lookup : Option (Text → Answer)) (rest : List Text) (scan : PartitionScan) :
    conclude rule lookup (raw :: rest) scan =
      goOn (attachOpen lookup scan.state.disk? scan.state.batch
          (scan.session.tick Source.partitionGeometry EventKind.lines))
        fun s => conclude rule lookup rest
          (PartitionScan.enter (lastToken raw) { state := .noEntity, session := s }) := by
  rw [conclude, PartitionScan.run, PartitionScan.step]
  simp only [h, if_true, lastToken_trim]
  have hclose := close_eq lookup
    ⟨scan.state, scan.session.tick Source.partitionGeometry EventKind.lines⟩
  have hstate := close_state lookup
    ⟨scan.state, scan.session.tick Source.partitionGeometry EventKind.lines⟩
  rw [← hclose]
  rcases hc : PartitionScan.close lookup _ with ⟨⟨state, s⟩, fault⟩
  rw [hc] at hstate
  obtain rfl : state = .noEntity := hstate
  cases fault with
  | some fault => rfl
  | none => rfl

/-- Any other line is read where the scan is. -/
theorem conclude_line {raw : Text} (h : isBlockHeader (trim raw) = false) (rule : NamingRule)
    (lookup : Option (Text → Answer)) (rest : List Text) (scan : PartitionScan) :
    conclude rule lookup (raw :: rest) scan =
      conclude rule lookup rest (PartitionScan.inner rule (trim raw)
        ⟨scan.state, scan.session.tick Source.partitionGeometry EventKind.lines⟩) := by
  rw [conclude, PartitionScan.run, PartitionScan.step]
  simp only [h, Bool.false_eq_true, if_false]
  rfl

/-- A line that opens no block leaves what will be attached as it is. -/
theorem attachOpen_inner (rule : NamingRule) (lookup : Option (Text → Answer)) (line : Text)
    (rest : List Text) (scan : PartitionScan) :
    Agrees
      (attachOpen lookup (scan.inner rule line).state.disk?
        (continued rule (scan.inner rule line).session.mounts (scan.inner rule line).state rest)
        (scan.inner rule line).session)
      (attachOpen lookup scan.state.disk?
        (continued rule scan.session.mounts scan.state (line :: rest)) scan.session) := by
  cases hdisk : scan.state.disk? with
  | none =>
    have hinner : scan.inner rule line =
        { scan with session := passOver Source.partitionGeometry line scan.session } := by
      rw [PartitionScan.inner, hdisk]
    rw [hinner, hdisk]
    exact ⟨passOver_alike _ line scan.session, rfl⟩
  | some disk =>
    -- in a block, a line either names the next partition or describes the pending one
    have hinner : (scan.inner rule line).session.Alike scan.session ∧
        (scan.inner rule line).state.disk? = some disk ∧
        continued rule scan.session.mounts (scan.inner rule line).state rest =
          continued rule scan.session.mounts scan.state (line :: rest) := by
      by_cases hmark : includes nameMark line = true
      · obtain ⟨hsession, hstate⟩ := continued_mark hmark rule rest hdisk
        exact ⟨hsession ▸ .refl _, hstate⟩
      · exact continued_attribute (by simpa using hmark) rule rest hdisk
    obtain ⟨halike, hstate, hcontinued⟩ := hinner
    rw [hstate, halike.sameStore.mounts, hcontinued]
    exact attachOpen_alike halike lookup _ _

/-- What is attached at the end of a block that has just been opened is the block. -/
theorem attachOpen_enter (rule : NamingRule) (lookup : Option (Text → Answer)) (b : Block)
    (s : Session) :
    attachOpen lookup
        (PartitionScan.enter b.device { state := .noEntity, session := s }).state.disk?
        (continued rule (openBlock Source.partitionGeometry b.device s).mounts
          (PartitionScan.enter b.device { state := .noEntity, session := s }).state b.body)
        (openBlock Source.partitionGeometry b.device s) = readBlock rule lookup b s := by
  have hvalid : (openBlock Source.partitionGeometry b.device s).isValid b.device =
      s.isValid b.device := by
    rw [Session.isValid, (openBlock_frame Source.partitionGeometry b.device s).1, Session.isValid]
  rw [readBlock, PartitionScan.enter]
  simp only [hvalid]
  split
  · rfl
  · rfl

/-- Where there are no more blocks, a reading is at its end. -/
theorem goOn_end (x : Session × Option Fault) (rule : NamingRule)
    (lookup : Option (Text → Answer)) : goOn x (readBlocks rule lookup []) = x := by
  obtain ⟨s, _ | fault⟩ := x <;> rfl

/-- To conclude the scan is to attach what the open block will hold, then to read the blocks behind
it. -/
theorem conclude_agrees (rule : NamingRule) (lookup : Option (Text → Answer)) (lines : List Text)
    (scan : PartitionScan) :
    Agrees (conclude rule lookup lines scan)
      (goOn (attachOpen lookup scan.state.disk?
          (continued rule scan.session.mounts scan.state
            (sections isBlockHeader (lines.map trim)).1) scan.session)
        (readBlocks rule lookup (blocksOf lines))) := by
  induction lines generalizing scan with
  | nil =>
    have hend : conclude rule lookup [] scan =
        attachOpen lookup scan.state.disk? scan.state.batch scan.session := close_eq lookup scan
    rw [hend, List.map_nil, sections_nil, continued_nil]
    exact (goOn_end _ rule lookup).symm ▸ ⟨.refl _, rfl⟩
  | cons raw rest ih =>
    have htick := Session.alike_tick scan.session Source.partitionGeometry EventKind.lines
    by_cases h : isBlockHeader (trim raw) = true
    · -- nothing is left to come for the open block, and the next one is open with nothing in it
      rw [conclude_header h, List.map_cons, sections_head h, continued_nil, blocksOf_header h]
      refine (attachOpen_alike htick lookup _ _).goOn fun s t hst => ?_
      have hrest := ih (PartitionScan.enter (lastToken raw) { state := .noEntity, session := s })
      have hread := attachOpen_enter rule lookup
        ⟨lastToken raw, (sections isBlockHeader (rest.map trim)).1⟩ s
      rw [PartitionScan.enter] at hrest hread ⊢
      rw [hread] at hrest
      exact hrest.trans
        (readBlocks_alike hst rule lookup (⟨lastToken raw, _⟩ :: blocksOf rest))
    · -- the line belongs to the lead, and what will be attached stays the same
      have h : isBlockHeader (trim raw) = false := by simpa using h
      rw [conclude_line h, List.map_cons, sections_line h, blocksOf_line h]
      have hinner := attachOpen_inner rule lookup (trim raw)
        (sections isBlockHeader (rest.map trim)).1
        ⟨scan.state, scan.session.tick Source.partitionGeometry EventKind.lines⟩
      refine (ih _).trans ((hinner.trans ?_).goOn fun s t hst => readBlocks_alike hst rule lookup _)
      exact attachOpen_alike htick lookup _ _

/-- The pass is a scan from a state where no block is open. -/
theorem readPartitionGeometry_eq_conclude (rule : NamingRule) (lookup : Option (Text → Answer))
    (lines : List Text) (s : Session) :
    readPartitionGeometry rule lookup lines s =
      conclude rule lookup lines { state := .noEntity, session := s } := by
  unfold readPartitionGeometry conclude
  rcases PartitionScan.run rule lookup lines { session := s } with ⟨scan, _ | fault⟩ <;> rfl

/-- The pass over partition geometry reads its blocks in order, and counts. -/
theorem readPartitionGeometry_agrees (rule : NamingRule) (lookup : Option (Text → Answer))
    (lines : List Text) (s : Session) :
    Agrees (readPartitionGeometry rule lookup lines s)
      (readBlocks rule lookup (blocksOf lines) s) := by
  rw [readPartitionGeometry_eq_conclude]
  exact conclude_agrees rule lookup lines { state := .noEntity, session := s }

end StorageInventory.Pass
