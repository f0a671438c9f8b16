import Mathlib.Tactic
import StorageInventory.Pass.DiskGeometry
import StorageInventory.Pass.Rows
import StorageInventory.Proofs.Pass.Sections
import StorageInventory.Proofs.Store.Attaching

/-!
# What the other passes do

The counter listing and the disk geometry are read into edits of the disks, one for each row that is
accepted and for each line of a block in scope that says something, and the mount table into a table
of mount points.  Apart from that, and from what they count and tell, the passes change nothing.

* `readCounters_sameStore`, `readDiskGeometry_sameStore`, `readMountTable_sameStore` — what the
  passes leave,
* `mem_counterEdits_iff`, `mem_geometryEdits_iff` — the devices that are edited.

None of these edits touches partitions, and each leaves the record under its name (`IsPlain`).
-/

namespace StorageInventory.Pass

open Text Number

/-- A session with some disks edited and the same otherwise, but for what it counted and told. -/
theorem sameStore_edits {s t : Session} {disks : Table Disk}
    (h : s.SameStore { t with disks := disks }) (edits : List DiskEdit) :
    ({ s with disks := applyEdits edits s.disks } : Session).SameStore
      { t with disks := applyEdits edits disks } :=
  ⟨h.valid, congrArg (applyEdits edits) h.disks, h.mounts, h.timestamp⟩

/-- An edit that does not touch partitions and leaves the record under its name. -/
structure IsPlain (e : DiskEdit) : Prop where
  keepsName : e.KeepsName
  partitions : ∀ d, (e.change d).partitions = d.partitions

/-- Registering a device gives it no partitions. -/
theorem isPlain_registration (device : Text) : IsPlain (registration device) :=
  ⟨fun _ h => h, fun _ => rfl⟩

/-- Plain edits leave the partitions of a disk. -/
theorem partitions_editsOf {edits : List DiskEdit} (h : ∀ e ∈ edits, IsPlain e) (device : Text)
    (disk : Disk) : (editsOf edits device disk).partitions = disk.partitions := by
  induction edits generalizing disk with
  | nil => rfl
  | cons e edits ih =>
    have ih := ih fun e' he' => h e' (List.mem_cons_of_mem _ he')
    by_cases hd : e.device = device
    · subst hd
      rw [editsOf_cons_self, ih, (h e (by simp)).partitions]
    · rw [editsOf_cons_of_ne hd, ih]

/-! ## Counters -/

/-- Put counters in, in the order of the columns. -/
def setCounters (timestamp : Int) (device : Text) (columns : List Text) (disk : Disk) : Disk :=
  let value (i : Nat) : Int := ((readColumns columns).map (·.getD 0)).getD i 0
  { disk with
    name := device
    readsCount := value 0
    writesCount := value 1
    readBytes := value 2
    writeBytes := value 3
    transferTimeMs := value 4
    timestamp := timestamp }

/-- The edit that a row makes, if it is accepted. -/
def counterEdit (timestamp : Int) (valid : Text → Bool) (line : Text) : Option DiskEdit :=
  (acceptCounterRow valid line).map fun (device, rest) =>
    ⟨device, setCounters timestamp device (device :: rest)⟩

/-- The edits that a counter listing makes. -/
def counterEdits (timestamp : Int) (valid : Text → Bool) (lines : List Text) : List DiskEdit :=
  lines.filterMap (counterEdit timestamp valid)

/-- A counter row edits the disks by what it says, and changes nothing else in the store. -/
theorem readCounterLine_sameStore (s : Session) (line : Text) :
    (readCounterLine s line).SameStore
      { s with disks := applyEdits (counterEdit s.timestamp s.isValid line).toList s.disks } := by
  have hvalid : (s.tick Source.counters EventKind.lines).isValid = s.isValid := rfl
  rw [readCounterLine, counterEdit]
  simp only [hvalid]
  cases acceptCounterRow s.isValid line with
  | none => exact ⟨rfl, rfl, rfl, rfl⟩
  | some row =>
    obtain ⟨device, rest⟩ := row
    dsimp only
    split <;> exact ⟨rfl, rfl, rfl, rfl⟩

/-- The counter listing is read into its edits. -/
theorem readCounters_sameStore (lines : List Text) (s : Session) :
    (readCounters lines s).SameStore
      { s with disks := applyEdits (counterEdits s.timestamp s.isValid lines) s.disks } := by
  induction lines generalizing s with
  | nil => exact .refl s
  | cons line lines ih =>
    have hline := readCounterLine_sameStore s line
    have hedits : counterEdits s.timestamp s.isValid (line :: lines) =
        (counterEdit s.timestamp s.isValid line).toList ++
          counterEdits (readCounterLine s line).timestamp (readCounterLine s line).isValid
            lines := by
      rw [counterEdits, List.filterMap_cons, hline.timestamp, hline.isValid]
      cases counterEdit s.timestamp s.isValid line <;> rfl
    rw [hedits, applyEdits_append]
    exact (ih (readCounterLine s line)).trans (sameStore_edits hline _)

/-- The row is one of the device: it has enough columns, and the device is the first. -/
def IsCounterRow (line device : Text) : Prop :=
  7 ≤ (tokens line).length ∧ (tokens line).head? = some device

/-- A row is accepted if it has seven columns, the first of them a device in scope. -/
theorem acceptCounterRow_eq_some {valid : Text → Bool} {line device : Text} {rest : List Text} :
    acceptCounterRow valid line = some (device, rest) ↔
      tokens line = device :: rest ∧ 7 ≤ rest.length + 1 ∧ valid device = true := by
  rw [acceptCounterRow]
  split
  · next htokens => simp [htokens]
  · next first more htokens =>
    rw [htokens, List.cons.injEq]
    constructor
    · intro h
      split at h
      · next hif =>
        simp only [Option.some.injEq, Prod.mk.injEq] at h
        obtain ⟨rfl, rfl⟩ := h
        simpa using hif
      · simp at h
    · rintro ⟨⟨rfl, rfl⟩, hlength, hvalid⟩
      rw [if_pos (by simp [hlength, hvalid])]

/-- The devices whose counters are edited. -/
theorem mem_counterEdits_iff {timestamp : Int} {valid : Text → Bool} {lines : List Text}
    {device : Text} :
    device ∈ (counterEdits timestamp valid lines).map DiskEdit.device ↔
      valid device = true ∧ ∃ line ∈ lines, IsCounterRow line device := by
  rw [counterEdits, List.map_filterMap, List.mem_filterMap]
  constructor
  · rintro ⟨line, hline, h⟩
    rw [counterEdit, Option.map_map, Option.map_eq_some_iff] at h
    obtain ⟨⟨first, rest⟩, haccept, hdevice⟩ := h
    obtain ⟨htokens, hlength, hvalid⟩ := acceptCounterRow_eq_some.1 haccept
    obtain rfl : first = device := hdevice
    exact ⟨hvalid, line, hline, by simpa [htokens] using hlength, by simp [htokens]⟩
  · rintro ⟨hvalid, line, hline, hlength, hhead⟩
    refine ⟨line, hline, ?_⟩
    obtain ⟨rest, htokens⟩ : ∃ rest, tokens line = device :: rest := by
      cases ht : tokens line with
      | nil => simp [ht] at hhead
      | cons first rest =>
        rw [ht, List.head?_cons, Option.some.injEq] at hhead
        exact ⟨rest, by rw [hhead]⟩
    have haccept := acceptCounterRow_eq_some.2
      ⟨htokens, by simpa [htokens] using hlength, hvalid⟩
    rw [counterEdit, haccept]
    rfl

/-- Counter rows leave partitions and names. -/
theorem isPlain_counterEdits {timestamp : Int} {valid : Text → Bool} {lines : List Text} :
    ∀ e ∈ counterEdits timestamp valid lines, IsPlain e := by
  intro e he
  obtain ⟨line, -, h⟩ := List.mem_filterMap.1 he
  obtain ⟨row, -, rfl⟩ := Option.map_eq_some_iff.1 h
  exact ⟨fun _ _ => rfl, fun _ => rfl⟩

/-! ## Disk geometry -/

/-- The edit that a line makes in the block of a disk, if it says something. -/
def attributeEdit (disk line : Text) : Option DiskEdit :=
  if sizeLabel.isPrefixOf line then
    (tokens line)[1]?.map fun size =>
      ⟨disk, fun d => { d with sizeBytes := (readSize size).getD 0 }⟩
  else if modelLabel.isPrefixOf line then
    some ⟨disk, fun d => { d with model := trim (line.drop modelLabel.length) }⟩
  else if serialLabel.isPrefixOf line then
    some ⟨disk, fun d =>
      { d with serial := trim (replaceAll noSerial [] (line.drop serialLabel.length)) }⟩
  else none

/-- The edits of a block: its device becomes known, and its lines are read. -/
def Block.edits (b : Block) : List DiskEdit :=
  registration b.device :: b.body.filterMap (attributeEdit b.device)

/-- An attribute edits its own disk, plainly. -/
theorem device_of_attributeEdit {disk line : Text} {e : DiskEdit}
    (h : attributeEdit disk line = some e) : e.device = disk ∧ IsPlain e := by
  rw [attributeEdit] at h
  split_ifs at h
  · obtain ⟨size, -, rfl⟩ := Option.map_eq_some_iff.1 h
    exact ⟨rfl, fun _ hd => hd, fun _ => rfl⟩
  · obtain rfl := Option.some.inj h
    exact ⟨rfl, fun _ hd => hd, fun _ => rfl⟩
  · obtain rfl := Option.some.inj h
    exact ⟨rfl, fun _ hd => hd, fun _ => rfl⟩

/-- A block edits its own device, plainly. -/
theorem device_of_mem_edits {b : Block} {e : DiskEdit} (h : e ∈ b.edits) :
    e.device = b.device ∧ IsPlain e := by
  rcases List.mem_cons.1 h with rfl | h
  · exact ⟨rfl, isPlain_registration b.device⟩
  · obtain ⟨line, -, he⟩ := List.mem_filterMap.1 h
    exact device_of_attributeEdit he

/-- The edits that a listing of disk geometry makes. -/
def geometryEdits (valid : Text → Bool) (lines : List Text) : List DiskEdit :=
  (kept valid (blocksOf lines)).flatMap Block.edits

/-- An attribute edits the disks by what it says, and changes nothing else in the store. -/
theorem readDiskAttribute_sameStore (disk line : Text) (s : Session) :
    (readDiskAttribute disk line s).SameStore
      { s with disks := applyEdits (attributeEdit disk line).toList s.disks } := by
  rw [readDiskAttribute, attributeEdit]
  split_ifs
  · rcases tokens line with _ | ⟨first, _ | ⟨size, more⟩⟩
    · exact ⟨rfl, rfl, rfl, rfl⟩
    · exact ⟨rfl, rfl, rfl, rfl⟩
    · dsimp only
      cases hsize : readSize size <;> simp [hsize]
      all_goals exact ⟨rfl, rfl, rfl, rfl⟩
  · exact ⟨rfl, rfl, rfl, rfl⟩
  · exact ⟨rfl, rfl, rfl, rfl⟩
  · exact .refl s

/-- A disk geometry leaves partitions and names. -/
theorem isPlain_geometryEdits {valid : Text → Bool} {lines : List Text} :
    ∀ e ∈ geometryEdits valid lines, IsPlain e := by
  intro e he
  obtain ⟨b, -, he⟩ := List.mem_flatMap.1 he
  exact (device_of_mem_edits he).2

/-- The edits of the lines up to the next header, if a block is open. -/
def openEdits (open? : Option Text) (lines : List Text) : List DiskEdit :=
  match open? with
  | none => []
  | some disk => lines.filterMap (attributeEdit disk)

/-- The edits that the rest of a listing makes, given the block that is open. -/
def remainingEdits (valid : Text → Bool) (open? : Option Text) (lines : List Text) :
    List DiskEdit :=
  openEdits open? (sections isBlockHeader (lines.map trim)).1 ++ geometryEdits valid lines

/-- A header registers its device, if that is in scope, and opens its block. -/
theorem remainingEdits_header {raw : Text} (h : isBlockHeader (trim raw) = true)
    (valid : Text → Bool) (open? : Option Text) (rest : List Text) :
    remainingEdits valid open? (raw :: rest) =
      (if valid (lastToken raw) then [registration (lastToken raw)] else []) ++
        remainingEdits valid (if valid (lastToken raw) then some (lastToken raw) else none)
          rest := by
  rw [remainingEdits, List.map_cons, sections_head h, geometryEdits, blocksOf_header h]
  have hopen : openEdits open? [] = [] := by cases open? <;> rfl
  rw [hopen, List.nil_append, remainingEdits, geometryEdits]
  by_cases hv : valid (lastToken raw) = true
  · rw [kept_cons_of_valid hv, List.flatMap_cons, Block.edits, if_pos hv, if_pos hv, openEdits]
    simp
  · have hv' : valid (lastToken raw) = false := by simpa using hv
    rw [kept_cons_of_not_valid hv', if_neg hv, if_neg hv, openEdits]
    rfl

/-- A line between headers edits the disk of the open block. -/
theorem remainingEdits_line {raw : Text} (h : isBlockHeader (trim raw) = false)
    (valid : Text → Bool) (open? : Option Text) (rest : List Text) :
    remainingEdits valid open? (raw :: rest) =
      (open?.bind fun disk => attributeEdit disk (trim raw)).toList ++
        remainingEdits valid open? rest := by
  rw [remainingEdits, List.map_cons, sections_line h, geometryEdits, blocksOf_line h,
    remainingEdits, geometryEdits, ← List.append_assoc]
  congr 1
  cases open? with
  | none => rfl
  | some disk =>
    rw [openEdits, openEdits, List.filterMap_cons, Option.bind_some]
    cases attributeEdit disk (trim raw) <;> rfl

/-- Opening a block registers its device, if that is in scope. -/
theorem openBlock_sameStore (source device : Text) (s : Session) :
    (openBlock source device s).SameStore
      { s with
        disks := applyEdits (if s.isValid device then [registration device] else []) s.disks } := by
  rw [openBlock]
  split
  · rw [Session.register_eq]
    exact ⟨rfl, rfl, rfl, rfl⟩
  · exact ⟨rfl, rfl, rfl, rfl⟩

/-- At a header the scan goes on with its device, which is registered if it is in scope. -/
theorem step_header {raw : Text} (h : isBlockHeader (trim raw) = true) (scan : DiskScan) :
    (scan.step raw).current =
        (if scan.session.isValid (lastToken raw) then some (lastToken raw) else none) ∧
      (scan.step raw).session.SameStore
        { scan.session with
          disks := applyEdits
            (if scan.session.isValid (lastToken raw) then [registration (lastToken raw)] else [])
            scan.session.disks } := by
  rw [DiskScan.step, lastToken_trim]
  simp only [h, if_true]
  exact ⟨rfl, (openBlock_sameStore _ _ _).trans ⟨rfl, rfl, rfl, rfl⟩⟩

/-- At another line the scan stays with its disk, which the line edits. -/
theorem step_line {raw : Text} (h : isBlockHeader (trim raw) = false) (scan : DiskScan) :
    (scan.step raw).current = scan.current ∧
      (scan.step raw).session.SameStore
        { scan.session with
          disks := applyEdits
            (scan.current.bind fun disk => attributeEdit disk (trim raw)).toList
            scan.session.disks } := by
  rw [DiskScan.step]
  simp only [h, Bool.false_eq_true, if_false]
  obtain ⟨current, s⟩ := scan
  cases current with
  | none =>
    refine ⟨rfl, ?_⟩
    dsimp only
    rw [passOver]
    split <;> exact ⟨rfl, rfl, rfl, rfl⟩
  | some disk =>
    exact ⟨rfl, (readDiskAttribute_sameStore disk _ _).trans ⟨rfl, rfl, rfl, rfl⟩⟩

/-- A scan makes the edits of its lines, in their order. -/
theorem run_sameStore (lines : List Text) (scan : DiskScan) :
    (scan.run lines).session.SameStore
      { scan.session with
        disks := applyEdits (remainingEdits scan.session.isValid scan.current lines)
          scan.session.disks } := by
  induction lines generalizing scan with
  | nil =>
    have hopen : remainingEdits scan.session.isValid scan.current [] = [] := by
      cases scan.current <;> rfl
    rw [hopen]
    exact .refl _
  | cons raw rest ih =>
    -- the edits of the line come first, then those of the rest in the block that is open now
    have hrest := ih (scan.step raw)
    by_cases h : isBlockHeader (trim raw) = true
    · obtain ⟨hcurrent, hstep⟩ := step_header h scan
      rw [remainingEdits_header h, applyEdits_append]
      rw [hcurrent, hstep.isValid] at hrest
      exact hrest.trans (sameStore_edits hstep _)
    · have h : isBlockHeader (trim raw) = false := by simpa using h
      obtain ⟨hcurrent, hstep⟩ := step_line h scan
      rw [remainingEdits_line h, applyEdits_append]
      rw [hcurrent, hstep.isValid] at hrest
      exact hrest.trans (sameStore_edits hstep _)

/-- The disk geometry is read into its edits. -/
theorem readDiskGeometry_sameStore (lines : List Text) (s : Session) :
    (readDiskGeometry lines s).SameStore
      { s with disks := applyEdits (geometryEdits s.isValid lines) s.disks } :=
  run_sameStore lines { current := none, session := s }

/-- The devices that disk geometry makes known. -/
theorem mem_geometryEdits_iff {valid : Text → Bool} {lines : List Text} {device : Text} :
    device ∈ (geometryEdits valid lines).map DiskEdit.device ↔
      valid device = true ∧ ∃ line ∈ lines, Names line device := by
  rw [← mem_map_device_kept, List.mem_map, List.mem_map]
  constructor
  · rintro ⟨e, he, rfl⟩
    obtain ⟨b, hb, he⟩ := List.mem_flatMap.1 he
    exact ⟨b, hb, (device_of_mem_edits he).1.symm⟩
  · rintro ⟨b, hb, rfl⟩
    exact ⟨registration b.device, List.mem_flatMap.2 ⟨b, hb, List.mem_cons_self⟩, rfl⟩

/-! ## Mount points -/

/-- Mount points put in, row by row. -/
def putMounts (rows : List (Text × Text)) (mounts : Table Text) : Table Text :=
  rows.foldl (fun mounts row => mounts.put row.1 row.2) mounts

/-- The mount points that a mount table gives; the last row of a partition counts. -/
def mountsOf (lines : List Text) : Table Text := putMounts (lines.filterMap readMountRow) []

/-- The last row of a partition counts. -/
theorem get?_putMounts (rows : List (Text × Text)) (mounts : Table Text) (name : Text) :
    (putMounts rows mounts).get? name =
      ((rows.filter (·.1 = name)).getLast?.map Prod.snd).or (mounts.get? name) :=
  Table.get?_foldl_put Prod.fst Prod.snd rows mounts name

/-- A mount row puts its mount point, if it has one. -/
theorem readMountLine_sameStore (s : Session) (line : Text) :
    (readMountLine s line).SameStore
      { s with mounts := putMounts (readMountRow line).toList s.mounts } := by
  rw [readMountLine]
  cases readMountRow line <;> exact ⟨rfl, rfl, rfl, rfl⟩

/-- The rows of a mount table put their mount points in order. -/
theorem readMountLines_sameStore (lines : List Text) (s : Session) :
    (lines.foldl readMountLine s).SameStore
      { s with mounts := putMounts (lines.filterMap readMountRow) s.mounts } := by
  induction lines generalizing s with
  | nil => exact .refl s
  | cons line lines ih =>
    have hline := readMountLine_sameStore s line
    have hrows : putMounts ((line :: lines).filterMap readMountRow) s.mounts =
        putMounts (lines.filterMap readMountRow)
          (putMounts (readMountRow line).toList s.mounts) := by
      rw [List.filterMap_cons]
      cases readMountRow line <;> rfl
    refine (ih (readMountLine s line)).trans ⟨hline.valid, hline.disks, ?_, hline.timestamp⟩
    rw [hrows, hline.mounts]

/-- The mount table is read into its mount points. -/
theorem readMountTable_sameStore (lines : List Text) (s : Session) :
    (readMountTable lines s).SameStore { s with mounts := mountsOf lines } :=
  readMountLines_sameStore lines { s with mounts := [] }

end StorageInventory.Pass
