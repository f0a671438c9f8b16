import Mathlib.Tactic
import StorageInventory.Proofs.Pass.PassAmounts

/-!
# What the counts of the partition geometry say of its lines

Besides the place of a line it matters here whether it describes a partition: it does behind a line
with the name mark that the naming rule accepts, up to the next line with the mark or the next
header.  Of the lines that describe partitions the bare ones and the bad sizes are counted, and of
the names that the rule accepts those whose lookup fails.

* `described` — these lines, block by block; `acceptedNames` are the names,
* `amounts_partitionEvents` — the events amount to their numbers.

The scan looks up the partitions of a block only at its end, so the induction carries the names that
are still to be attached (`namesFrom`), as `continued` carries the partitions.
-/

namespace StorageInventory.Pass

open Diagnostics Text

/-! ## The lines that count -/

/-- A line that is not blank and has no second word. -/
def isBare (line : Text) : Bool := line ≠ [] && (tokens line)[1]?.isNone

/-- The lines of a disk's block that describe a partition, given whether one is open. -/
def describedIn (rule : NamingRule) (disk : Text) (isOpen : Bool) (body : List Text) : List Text :=
  standing (includes nameMark) (fun line => (rule line disk).isSome) isOpen body

/-- The lines that describe partitions up to the next header. -/
def PartitionState.described (rule : NamingRule) (state : PartitionState) (body : List Text) :
    List Text :=
  match state.disk? with
  | none => []
  | some disk => describedIn rule disk state.pending?.isSome body

/-- The lines that describe partitions of disks in scope. -/
def described (rule : NamingRule) (valid : Text → Bool) (lines : List Text) : List Text :=
  (kept valid (blocksOf lines)).flatMap fun b => describedIn rule b.device false b.body

/-- The tallies of lines that describe partitions. -/
def attributeTallies (lines : List Text) : List Tally :=
  [⟨Source.partitionGeometry, EventKind.skipped, lines.countP isBare⟩,
    ⟨Source.partitionGeometry, EventKind.defaulted, lines.countP isBadSize⟩]

/-- The tallies of the lookups for some names. -/
def lookupTallies (failed : Text → Bool) (names : List Text) : List Tally :=
  [⟨Source.minor, EventKind.lookupFailed, names.countP failed⟩]

/-- The attributes of two lists of lines are counted one by one. -/
theorem tallied_attributeTallies_append (source kind : Text) (a b : List Text) :
    tallied source kind (attributeTallies (a ++ b)) =
      tallied source kind (attributeTallies a) + tallied source kind (attributeTallies b) := by
  simp only [attributeTallies, tallied_cons, tallied_nil, List.countP_append, Nat.cast_add,
    toward_add]
  ring

/-- The lookups of two lists of names are counted one by one. -/
theorem tallied_lookupTallies_append (source kind : Text) (failed : Text → Bool)
    (a b : List Text) :
    tallied source kind (lookupTallies failed (a ++ b)) =
      tallied source kind (lookupTallies failed a) +
        tallied source kind (lookupTallies failed b) := by
  simp only [lookupTallies, tallied_cons, tallied_nil, List.countP_append, Nat.cast_add, toward_add]
  ring

/-- The events of a batch are those of the lookups that fail for its names. -/
theorem amounts_lookups (failed : Text → Bool) (batch : List Partition) :
    Amounts (Session.lookupEvents failed batch)
      (lookupTallies failed (batch.map Partition.name)) := by
  induction batch with
  | nil => exact Amounts.nil.congr fun _ _ => by simp [lookupTallies]
  | cons p batch ih =>
    have hbatch := ih
    rw [Session.lookupEvents] at hbatch ⊢
    by_cases hp : failed p.name = true
    · rw [List.filter_cons_of_pos (by simpa using hp), List.map_cons]
      refine (hbatch.cons (event_pos _ _)).congr fun s k => ?_
      simp only [lookupTallies, tallied_cons, tallied_nil, List.map_cons,
        List.countP_cons_of_pos hp, Nat.cast_add, Nat.cast_one, toward_add, event]
      ring
    · rw [List.filter_cons_of_neg (by simpa using hp)]
      refine hbatch.congr fun s k => ?_
      rw [lookupTallies, lookupTallies, List.map_cons, List.countP_cons_of_neg hp]

/-- A line of a partition is counted by the attribute that it has. -/
theorem amounts_partitionAttribute (line : Text) :
    Amounts (partitionAttributeEvents line) (attributeTallies [line]) := by
  rw [partitionAttributeEvents]
  split
  · next value hvalue =>
    have hbare : isBare line = false := by simp [isBare, hvalue]
    split
    · next hbad =>
      have hbad' : isBadSize line = true := by rw [isBadSize, hvalue, Option.any_some, hbad]
      exact (Amounts.nil.cons (event_pos _ _)).congr fun _ _ => by
        simp [attributeTallies, hbare, hbad', event]
    · next hgood =>
      have hgood' : isBadSize line = false := by
        rw [isBadSize, hvalue, Option.any_some, Bool.eq_false_iff.2 hgood]
      exact Amounts.nil.congr fun _ _ => by simp [attributeTallies, hbare, hgood']
  · next hvalue =>
    have hbad : isBadSize line = false := by simp [isBadSize, hvalue]
    split
    · next hblank =>
      have hbare : isBare line = false := by simp [isBare, hblank]
      exact Amounts.nil.congr fun _ _ => by simp [attributeTallies, hbare, hbad]
    · next hblank =>
      exact (Amounts.nil.cons (event_pos _ _)).congr fun _ _ => by
        simp [attributeTallies, isBare, hbad, hblank, hvalue, event]

/-! A line that opens no block describes the partition that is open, if it has no name mark. -/

/-- The line, if it describes the partition that is open. -/
def PartitionState.describedBy (state : PartitionState) (line : Text) : List Text :=
  if state.pending?.isSome && !includes nameMark line then [line] else []

section

variable (rule : NamingRule) (mounts : Table Text) (line : Text) (rest : List Text)

/-- A line that opens no block leaves the disk of the scan. -/
theorem disk_stateAfter (state : PartitionState) :
    (stateAfter rule mounts line state).disk? = state.disk? := by
  cases hdisk : state.disk? with
  | none => rw [stateAfter, PartitionScan.inner, hdisk]; exact hdisk
  | some disk =>
    have hscan : (PartitionScan.mk state { mounts }).state.disk? = some disk := hdisk
    by_cases hmark : includes nameMark line = true
    · exact (continued_mark hmark rule [] hscan).2.1
    · exact (continued_attribute (by simpa using hmark) rule [] hscan).2.1

/-- What a block goes on with after a line is what it goes on with from that line. -/
theorem continued_stateAfter (state : PartitionState) :
    continued rule mounts (stateAfter rule mounts line state) rest =
      continued rule mounts state (line :: rest) := by
  cases hdisk : state.disk? with
  | none =>
    have hstate : state = .noEntity := by cases state <;> simp_all [PartitionState.disk?]
    subst hstate
    rfl
  | some disk =>
    have hscan : (PartitionScan.mk state { mounts }).state.disk? = some disk := hdisk
    by_cases hmark : includes nameMark line = true
    · exact (continued_mark hmark rule rest hscan).2.2
    · exact (continued_attribute (by simpa using hmark) rule rest hscan).2.2

/-- After a line, a partition is pending if the line names one, or if one was pending and the line
names nothing. -/
theorem pending_stateAfter {state : PartitionState} {disk : Text}
    (hdisk : state.disk? = some disk) :
    (stateAfter rule mounts line state).pending?.isSome =
      if includes nameMark line then (rule line disk).isSome else state.pending?.isSome := by
  rw [stateAfter, PartitionScan.inner, hdisk]
  dsimp only
  split
  · cases rule line disk <;> rfl
  · cases state <;> rfl

/-- The lines that describe a partition are the first one, if it does, and those after it. -/
theorem described_stateAfter (state : PartitionState) :
    state.described rule (line :: rest) =
      state.describedBy line ++ (stateAfter rule mounts line state).described rule rest := by
  rw [PartitionState.described, PartitionState.described, disk_stateAfter]
  cases hdisk : state.disk? with
  | none =>
    have hpending : state.pending? = none := by
      cases state <;> simp_all [PartitionState.disk?, PartitionState.pending?]
    simp [PartitionState.describedBy, hpending]
  | some disk =>
    dsimp only
    rw [pending_stateAfter rule mounts line hdisk, PartitionState.describedBy, describedIn,
      describedIn]
    by_cases hmark : includes nameMark line = true
    · simp [standing_head hmark, hmark]
    · have hmark : includes nameMark line = false := by simpa using hmark
      simp [standing_line hmark, hmark]

end

/-- A line that opens no block is counted as ignored outside of blocks, and by its attribute inside
of a partition. -/
theorem amounts_inner (line : Text) (state : PartitionState) :
    Amounts (innerEvents line state)
      (⟨Source.partitionGeometry, EventKind.ignored,
          (if state.disk?.isSome then [] else [line]).countP (· ≠ [])⟩ ::
        attributeTallies (state.describedBy line)) := by
  cases state with
  | noEntity =>
    refine (amounts_passOver Source.partitionGeometry line).congr fun _ _ => ?_
    simp [PartitionState.disk?, PartitionState.describedBy, PartitionState.pending?,
      attributeTallies]
  | inDisk disk complete =>
    refine Amounts.nil.congr fun _ _ => ?_
    simp [PartitionState.disk?, PartitionState.describedBy, PartitionState.pending?,
      attributeTallies]
  | inPartition disk complete pending =>
    rw [innerEvents]
    by_cases hmark : includes nameMark line = true
    · rw [if_pos hmark]
      refine Amounts.nil.congr fun _ _ => ?_
      simp [PartitionState.disk?, PartitionState.describedBy, hmark, attributeTallies]
    · rw [if_neg hmark]
      refine (amounts_partitionAttribute line).congr fun _ _ => ?_
      have hmark : includes nameMark line = false := by simpa using hmark
      simp [PartitionState.disk?, PartitionState.describedBy, PartitionState.pending?, hmark]

/-! The tallies of a scan that is under way are those of the open block and of the blocks behind
it. -/

section

variable (rule : NamingRule) (valid : Text → Bool) (mounts : Table Text) (failed : Text → Bool)

/-- The lines that still describe partitions. -/
def describedFrom (state : PartitionState) (lines : List Text) : List Text :=
  state.described rule (sections isBlockHeader (lines.map trim)).1 ++ described rule valid lines

/-- The names of the partitions that are still to be attached. -/
def namesFrom (state : PartitionState) (lines : List Text) : List Text :=
  (continued rule mounts state (sections isBlockHeader (lines.map trim)).1).map Partition.name ++
    acceptedNames rule valid lines

/-- The tallies of a listing of partition geometry. -/
def partitionTallies (state : PartitionState) (lines : List Text) : List Tally :=
  placeTallies Source.partitionGeometry valid state.disk?.isSome lines ++
    (attributeTallies (describedFrom rule valid state lines) ++
      lookupTallies failed (namesFrom rule valid mounts state lines))

variable {raw : Text} (rest : List Text) (state : PartitionState)

/-- The state behind a header. -/
def opened (valid : Text → Bool) (device : Text) : PartitionState :=
  if valid device then .inDisk device [] else .noEntity

/-- A block is open after a header exactly if its device is in scope. -/
theorem disk_opened (device : Text) : (opened valid device).disk?.isSome = valid device := by
  rw [opened]
  cases valid device <;> rfl

/-- At a header the lines that describe are those of the block it opens. -/
theorem describedFrom_header (h : isBlockHeader (trim raw) = true) :
    describedFrom rule valid state (raw :: rest) =
      describedFrom rule valid (opened valid (lastToken raw)) rest := by
  have hopen : state.described rule [] = [] := by
    cases state <;> simp [PartitionState.described, PartitionState.disk?, describedIn]
  rw [describedFrom, List.map_cons, sections_head h, hopen, List.nil_append, described,
    blocksOf_header h, describedFrom, opened, described]
  by_cases hv : valid (lastToken raw) = true
  · rw [kept_cons_of_valid hv, if_pos hv]
    rfl
  · rw [kept_cons_of_not_valid (by simpa using hv), if_neg hv]
    rfl

/-- At a header the names of the open block are complete, and those of the block it opens follow. -/
theorem namesFrom_header (h : isBlockHeader (trim raw) = true) :
    namesFrom rule valid mounts state (raw :: rest) =
      state.batch.map Partition.name ++
        namesFrom rule valid mounts (opened valid (lastToken raw)) rest := by
  rw [namesFrom, List.map_cons, sections_head h, continued_nil, acceptedNames, blocksOf_header h,
    namesFrom, opened, acceptedNames]
  congr 1
  by_cases hv : valid (lastToken raw) = true
  · rw [kept_cons_of_valid hv, if_pos hv, List.flatMap_cons,
      ← Block.map_name_partitions rule mounts]
    rfl
  · rw [kept_cons_of_not_valid (by simpa using hv), if_neg hv]
    rfl

/-- A line between headers may describe the pending partition. -/
theorem describedFrom_line (h : isBlockHeader (trim raw) = false) :
    describedFrom rule valid state (raw :: rest) =
      state.describedBy (trim raw) ++
        describedFrom rule valid (stateAfter rule mounts (trim raw) state) rest := by
  rw [describedFrom, List.map_cons, sections_line h, described_stateAfter rule mounts, described,
    blocksOf_line h, List.append_assoc]
  rfl

/-- A line between headers only changes the state that the names depend on. -/
theorem namesFrom_line (h : isBlockHeader (trim raw) = false) :
    namesFrom rule valid mounts state (raw :: rest) =
      namesFrom rule valid mounts (stateAfter rule mounts (trim raw) state) rest := by
  rw [namesFrom, List.map_cons, sections_line h, ← continued_stateAfter, acceptedNames,
    blocksOf_line h]
  rfl

/-- The events of partition geometry amount to the tallies of the listing. -/
theorem amounts_partitionEvents (lines : List Text) :
    Amounts (partitionEvents rule valid mounts failed state lines)
      (partitionTallies rule valid mounts failed state lines) := by
  induction lines generalizing state with
  | nil =>
    have hdescribed : describedFrom rule valid state [] = [] := by
      cases state <;> simp [describedFrom, described, blocksOf, kept, PartitionState.described,
        PartitionState.disk?, describedIn]
    have hnames : namesFrom rule valid mounts state [] = state.batch.map Partition.name := by
      simp [namesFrom, continued_nil, acceptedNames, blocksOf, kept]
    refine (amounts_lookups failed state.batch).congr fun _ _ => ?_
    rw [partitionTallies, hdescribed, hnames]
    simp [placeTallies, attributeTallies, headersOutOfScope, outside, inside]
  | cons raw rest ih =>
    rw [partitionEvents]
    by_cases h : isBlockHeader (trim raw) = true
    · -- the lookups for the open block come behind the header's line and before its block
      have hrest := ih (opened valid (lastToken raw))
      rw [partitionTallies, disk_opened] at hrest
      have hplace := amounts_header h Source.partitionGeometry valid state.disk?.isSome hrest
      rw [if_pos h]
      refine (((amounts_lookups failed state.batch).append hplace).perm ?_).congr fun _ _ => ?_
      · rw [List.append_assoc]
        exact List.perm_middle
      · rw [partitionTallies, describedFrom_header rule valid rest state h,
          namesFrom_header rule valid mounts rest state h]
        simp only [tallied_append, tallied_lookupTallies_append]
        ring
    · have hline : isBlockHeader (trim raw) = false := by simpa using h
      have hrest := ih (stateAfter rule mounts (trim raw) state)
      rw [partitionTallies, disk_stateAfter] at hrest
      rw [if_neg h]
      refine (amounts_line hline Source.partitionGeometry valid state.disk?.isSome
        (amounts_inner (trim raw) state) hrest).congr fun _ _ => ?_
      rw [partitionTallies, describedFrom_line rule valid mounts rest state hline,
        namesFrom_line rule valid mounts rest state hline]
      simp only [tallied_append, tallied_attributeTallies_append]
      ring

end

end StorageInventory.Pass
