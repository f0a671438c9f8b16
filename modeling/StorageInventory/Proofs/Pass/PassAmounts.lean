import Mathlib.Tactic
import StorageInventory.Proofs.Diagnostics.Amounts
import StorageInventory.Proofs.Pass.MountRows
import StorageInventory.Proofs.Pass.PassEvents

/-!
# What the counts of a pass say of its lines

The events of a pass amount to one tally for each kind, and each of these is the number of the lines
of some sort, or of their columns.  In a geometry listing the sort of a line depends on where it
stands, inside a block in scope or outside of all.

* `amounts_mountTable`, `amounts_counters` — the tallies of the listings that are read line by line,
* `amounts_header`, `amounts_line` — how the lines of a geometry listing count by their place,
* `amounts_diskEvents` — the tallies of the disk geometry.

The induction over a geometry listing follows its events, so the tallies are told for a scan that is
under way: the lines that are left may go on in a block that is open.
-/

namespace StorageInventory.Pass

open Diagnostics Number Text

/-- A single event counts something. -/
theorem event_pos (source kind : Text) : 0 < (event source kind).count := one_pos

/-! ## Listings that are read line by line -/

/-- If each line amounts to its own tallies and these add up, so do all lines. -/
theorem amounts_flatMap {events : Text → List Tally} {tallies : List Text → List Tally}
    (hline : ∀ line, Amounts (events line) (tallies [line]))
    (hnil : ∀ source kind, tallied source kind (tallies []) = 0)
    (hcons : ∀ line lines source kind, tallied source kind (tallies (line :: lines)) =
      tallied source kind (tallies [line]) + tallied source kind (tallies lines))
    (lines : List Text) : Amounts (lines.flatMap events) (tallies lines) := by
  induction lines with
  | nil => exact Amounts.nil.congr fun source kind => (hnil source kind).symm
  | cons line lines ih =>
    refine ((hline line).append ih).congr fun source kind => ?_
    rw [tallied_append, ← hcons]

/-- The tallies of a mount table. -/
def mountTallies (lines : List Text) : List Tally :=
  [⟨Source.mounts, EventKind.lines, lines.length⟩,
    ⟨Source.mounts, EventKind.skipped, lines.countP fun row => ¬ IsMounting row⟩]

/-- The rows of a mount table are counted by whether they say that something is mounted. -/
theorem amounts_mountTable (lines : List Text) :
    Amounts (lines.flatMap mountLineEvents) (mountTallies lines) := by
  refine amounts_flatMap (fun line => ?_) (fun source kind => ?_)
    (fun line lines source kind => ?_) lines
  · rw [mountLineEvents]
    refine .cons (event_pos _ _) ?_
    by_cases h : IsMounting line
    · rw [if_pos (isSome_readMountRow_iff.2 h)]
      exact Amounts.nil.congr fun _ _ => by simp [h]
    · rw [if_neg fun hsome => h (isSome_readMountRow_iff.1 hsome)]
      exact (Amounts.nil.cons (event_pos _ _)).congr fun _ _ => by simp [h, event]
  · simp [mountTallies]
  · simp only [mountTallies, tallied_cons, tallied_nil, List.countP_cons, List.countP_nil,
      List.length_cons, List.length_nil, Nat.cast_add, Nat.cast_zero, toward_add, toward_zero]
    ring

/-- The column holds a number that is finite, also in the smaller unit. -/
def IsReadable (columns : List Text) (column : Nat × Nat) : Prop :=
  ∃ word x, columns[column.1]? = some word ∧ readBinary64 word = some x ∧ x.isFinite = true ∧
    (x.times column.2).isFinite = true

/-- A column is read exactly if it is readable. -/
theorem isSome_readColumn_iff {columns : List Text} {column : Nat × Nat} :
    (readColumn columns[column.1]? column.2).isSome = true ↔ IsReadable columns column := by
  rw [readColumn, IsReadable]
  cases columns[column.1]? with
  | none => simp
  | some word =>
    cases hread : readBinary64 word with
    | none => simp [hread]
    | some x =>
      rw [Option.bind_some, hread]
      dsimp only
      split <;> simp_all

instance (columns : List Text) (column : Nat × Nat) : Decidable (IsReadable columns column) :=
  decidable_of_iff _ isSome_readColumn_iff

/-- The row has enough columns, and the first is a device in scope. -/
def isRowInScope (valid : Text → Bool) (line : Text) : Bool :=
  7 ≤ (tokens line).length && (tokens line).head?.any valid

/-- The number of columns of a row that are to be read and cannot. -/
def unreadable (line : Text) : Nat :=
  counterColumns.countP fun column => ¬ IsReadable (tokens line) column

/-- The tallies of a counter listing. -/
def counterTallies (valid : Text → Bool) (lines : List Text) : List Tally :=
  [⟨Source.counters, EventKind.lines, lines.length⟩,
    ⟨Source.counters, EventKind.skipped, lines.countP fun line => !isRowInScope valid line⟩,
    ⟨Source.counters, EventKind.defaulted,
      ((lines.filter (isRowInScope valid)).map unreadable).sum⟩]

/-- The columns without a value are those that cannot be read. -/
theorem countP_isNone_readColumns (line : Text) :
    (readColumns (tokens line)).countP Option.isNone = unreadable line := by
  rw [readColumns, List.countP_map, unreadable]
  refine List.countP_congr fun column _ => ?_
  rw [decide_eq_true_eq, ← isSome_readColumn_iff]
  simp

/-- A row is accepted exactly if it is in scope. -/
theorem isSome_acceptCounterRow (valid : Text → Bool) (line : Text) :
    (acceptCounterRow valid line).isSome = isRowInScope valid line := by
  rw [acceptCounterRow, isRowInScope]
  rcases tokens line with _ | ⟨device, rest⟩
  · rfl
  · rw [List.length_cons, List.head?_cons, Option.any_some]
    dsimp only
    split <;> simp_all

/-- A counter row is counted by whether it is in scope, and by the columns that cannot be read. -/
theorem amounts_counterLine (valid : Text → Bool) (line : Text) :
    Amounts (counterLineEvents valid line) (counterTallies valid [line]) := by
  rw [counterLineEvents]
  refine .cons (event_pos _ _) ?_
  cases haccept : acceptCounterRow valid line with
  | none =>
    have hrow : isRowInScope valid line = false := by
      rw [← isSome_acceptCounterRow, haccept, Option.isSome_none]
    exact (Amounts.nil.cons (event_pos _ _)).congr fun _ _ => by simp [hrow, event]
  | some row =>
    obtain ⟨device, rest⟩ := row
    obtain ⟨htokens, -⟩ := acceptCounterRow_eq_some.1 haccept
    have hrow : isRowInScope valid line = true := by
      rw [← isSome_acceptCounterRow, haccept, Option.isSome_some]
    have hcount : (readColumns (device :: rest)).countP Option.isNone = unreadable line := by
      rw [← htokens, countP_isNone_readColumns]
    dsimp only
    rw [hcount]
    split
    · next hzero => exact Amounts.nil.congr fun _ _ => by simp [hrow, hzero]
    · next hpos =>
      refine (Amounts.nil.cons ?_).congr fun _ _ => by simp [hrow]
      exact Int.natCast_pos.2 (Nat.pos_of_ne_zero hpos)

/-- Counter rows are counted one by one. -/
theorem amounts_counters (valid : Text → Bool) (lines : List Text) :
    Amounts (lines.flatMap (counterLineEvents valid)) (counterTallies valid lines) := by
  refine amounts_flatMap (amounts_counterLine valid) (fun source kind => ?_)
    (fun line lines source kind => ?_) lines
  · simp [counterTallies]
  · have hsum : ((line :: lines).filter (isRowInScope valid)).map unreadable =
        ([line].filter (isRowInScope valid)).map unreadable ++
          (lines.filter (isRowInScope valid)).map unreadable := by
      rw [← List.map_append, ← List.filter_append, List.singleton_append]
    simp only [counterTallies, tallied_cons, tallied_nil, List.countP_cons, List.countP_nil,
      List.length_cons, List.length_nil, hsum, List.sum_append, Nat.cast_add, Nat.cast_zero,
      toward_add, toward_zero]
    ring

/-! ## Both geometry listings -/

/-- The number of headers that name a device out of scope. -/
def headersOutOfScope (valid : Text → Bool) (lines : List Text) : Nat :=
  lines.countP fun line => isBlockHeader (trim line) && !valid (lastToken line)

/-- The lines in blocks in scope, those of the lead among them if such a block is open. -/
def inside (valid : Text → Bool) (isOpen : Bool) (lines : List Text) : List Text :=
  standing isBlockHeader (fun header => valid (lastToken header)) isOpen (lines.map trim)

/-- The lines outside all blocks in scope. -/
def outside (valid : Text → Bool) (isOpen : Bool) (lines : List Text) : List Text :=
  inside (fun device => !valid device) (!isOpen) lines

/-- The tallies of a geometry listing that tell where its lines stand. -/
def placeTallies (source : Text) (valid : Text → Bool) (isOpen : Bool) (lines : List Text) :
    List Tally :=
  [⟨source, EventKind.lines, lines.length⟩,
    ⟨source, EventKind.outOfScope, headersOutOfScope valid lines⟩,
    ⟨source, EventKind.ignored, (outside valid isOpen lines).countP (· ≠ [])⟩]

/-- What follows a header is inside of a block exactly if the header's device is in scope. -/
theorem inside_header {raw : Text} (h : isBlockHeader (trim raw) = true) (valid : Text → Bool)
    (isOpen : Bool) (rest : List Text) :
    inside valid isOpen (raw :: rest) = inside valid (valid (lastToken raw)) rest := by
  rw [inside, List.map_cons, standing_head h, lastToken_trim, inside]

/-- A line between headers stands where the lines around it do. -/
theorem inside_line {raw : Text} (h : isBlockHeader (trim raw) = false) (valid : Text → Bool)
    (isOpen : Bool) (rest : List Text) :
    inside valid isOpen (raw :: rest) =
      (if isOpen then [trim raw] else []) ++ inside valid isOpen rest := by
  rw [inside, List.map_cons, standing_line h, inside]

/-- A header is counted if its device is out of scope. -/
theorem amounts_openBlock (source : Text) (valid : Text → Bool) (device : Text) :
    Amounts (openBlockEvents source valid device)
      [⟨source, EventKind.outOfScope, if valid device then 0 else 1⟩] := by
  rw [openBlockEvents]
  split
  · exact Amounts.nil.congr fun _ _ => by simp
  · exact Amounts.nil.cons (event_pos _ _)

/-- A line outside of blocks is counted unless it is empty. -/
theorem amounts_passOver (source line : Text) :
    Amounts (passOverEvents source line)
      [⟨source, EventKind.ignored, [line].countP (· ≠ [])⟩] := by
  rw [passOverEvents]
  split
  · next h => exact Amounts.nil.congr fun _ _ => by simp [h]
  · next h => exact (Amounts.nil.cons (event_pos _ _)).congr fun _ _ => by simp [h, event]

/-- A header counts itself, and opens its block. -/
theorem amounts_header {raw : Text} (h : isBlockHeader (trim raw) = true) (source : Text)
    (valid : Text → Bool) (isOpen : Bool) {rest : List Text} {events more : List Tally}
    (hrest : Amounts events (placeTallies source valid (valid (lastToken raw)) rest ++ more)) :
    Amounts (event source EventKind.lines ::
        (openBlockEvents source valid (lastToken raw) ++ events))
      (placeTallies source valid isOpen (raw :: rest) ++ more) := by
  refine (((amounts_openBlock source valid (lastToken raw)).append hrest).cons
    (event_pos source _)).congr fun s k => ?_
  have houtside : outside valid isOpen (raw :: rest) = outside valid (valid (lastToken raw)) rest :=
    inside_header h _ _ rest
  have hheader : ((headersOutOfScope valid (raw :: rest) : Nat) : Int) =
      headersOutOfScope valid rest + if valid (lastToken raw) then 0 else 1 := by
    rw [headersOutOfScope, List.countP_cons, h, headersOutOfScope]
    cases valid (lastToken raw) <;> simp
  simp only [placeTallies, tallied_append, tallied_cons, tallied_nil, event, hheader, houtside,
    List.length_cons, Nat.cast_add, Nat.cast_one, toward_add]
  ring

/-- Any other line counts itself, and is passed over outside the blocks in scope. -/
theorem amounts_line {raw : Text} (h : isBlockHeader (trim raw) = false) (source : Text)
    (valid : Text → Bool) (isOpen : Bool) {rest : List Text}
    {events events' more more' : List Tally}
    (hline : Amounts events (⟨source, EventKind.ignored,
      (if isOpen then [] else [trim raw]).countP (· ≠ [])⟩ :: more))
    (hrest : Amounts events' (placeTallies source valid isOpen rest ++ more')) :
    Amounts (event source EventKind.lines :: (events ++ events'))
      (placeTallies source valid isOpen (raw :: rest) ++ (more ++ more')) := by
  refine ((hline.append hrest).cons (event_pos source _)).congr fun s k => ?_
  have houtside : outside valid isOpen (raw :: rest) =
      (if isOpen then [] else [trim raw]) ++ outside valid isOpen rest := by
    rw [outside, inside_line h, outside]
    cases isOpen <;> rfl
  have hheader : headersOutOfScope valid (raw :: rest) = headersOutOfScope valid rest := by
    rw [headersOutOfScope, List.countP_cons, h, headersOutOfScope]
    rfl
  simp only [placeTallies, tallied_append, tallied_cons, tallied_nil, event, hheader, houtside,
    List.countP_append, List.length_cons, Nat.cast_add, Nat.cast_one, toward_add]
  ring

/-! ## Disk geometry -/

/-- A line with a size that has no second word. -/
def isBareSize (line : Text) : Bool := sizeLabel.isPrefixOf line && (tokens line)[1]?.isNone

/-- A line with a size whose second word is no whole number. -/
def isBadSize (line : Text) : Bool :=
  sizeLabel.isPrefixOf line && (tokens line)[1]?.any fun size => (readSize size).isNone

/-- The tallies of the sizes of disks. -/
def sizeTallies (lines : List Text) : List Tally :=
  [⟨Source.diskGeometry, EventKind.skipped, lines.countP isBareSize⟩,
    ⟨Source.diskGeometry, EventKind.defaulted, lines.countP isBadSize⟩]

/-- The tallies of a listing of disk geometry. -/
def diskTallies (valid : Text → Bool) (isOpen : Bool) (lines : List Text) : List Tally :=
  placeTallies Source.diskGeometry valid isOpen lines ++ sizeTallies (inside valid isOpen lines)

/-- A line of a disk is counted if it has a size that is no number. -/
theorem amounts_diskAttribute (line : Text) :
    Amounts (diskAttributeEvents line) (sizeTallies [line]) := by
  rw [diskAttributeEvents]
  split
  · next hsize =>
    split
    · next hvalue =>
      exact (Amounts.nil.cons (event_pos _ _)).congr fun _ _ => by
        simp [sizeTallies, isBareSize, isBadSize, hsize, hvalue, event]
    · next size hvalue =>
      split
      · next hread =>
        exact Amounts.nil.congr fun _ _ => by
          simp [sizeTallies, isBareSize, isBadSize, hvalue, Option.isSome_iff_ne_none.1 hread]
      · next hread =>
        have hnone : readSize size = none := by simpa using hread
        exact (Amounts.nil.cons (event_pos _ _)).congr fun _ _ => by
          simp [sizeTallies, isBareSize, isBadSize, hsize, hvalue, hnone, event]
  · next hsize =>
    exact Amounts.nil.congr fun _ _ => by simp [sizeTallies, isBareSize, isBadSize, hsize]

/-- The sizes of two lists of lines are counted one by one. -/
theorem tallied_sizeTallies_append (source kind : Text) (a b : List Text) :
    tallied source kind (sizeTallies (a ++ b)) =
      tallied source kind (sizeTallies a) + tallied source kind (sizeTallies b) := by
  simp only [sizeTallies, tallied_cons, tallied_nil, List.countP_append, Nat.cast_add, toward_add]
  ring

/-- A line that opens no block counts as one of the open block, or is passed over. -/
theorem amounts_diskLine (open? : Option Text) (line : Text) :
    Amounts (diskLineEvents open? line)
      (⟨Source.diskGeometry, EventKind.ignored,
          (if open?.isSome then [] else [line]).countP (· ≠ [])⟩ ::
        sizeTallies (if open?.isSome then [line] else [])) := by
  cases open? with
  | none =>
    refine (amounts_passOver Source.diskGeometry line).congr fun _ _ => ?_
    simp [sizeTallies]
  | some disk =>
    refine (amounts_diskAttribute line).congr fun _ _ => ?_
    simp

/-- The events of disk geometry amount to the tallies of the listing. -/
theorem amounts_diskEvents (valid : Text → Bool) (open? : Option Text) (lines : List Text) :
    Amounts (diskEvents valid open? lines) (diskTallies valid open?.isSome lines) := by
  induction lines generalizing open? with
  | nil =>
    refine Amounts.nil.congr fun _ _ => ?_
    simp [diskTallies, placeTallies, sizeTallies, headersOutOfScope, outside, inside]
  | cons raw rest ih =>
    rw [diskEvents, diskTallies]
    by_cases h : isBlockHeader (trim raw) = true
    · have hrest := ih (if valid (lastToken raw) then some (lastToken raw) else none)
      have hopen : (if valid (lastToken raw) then some (lastToken raw) else none).isSome =
          valid (lastToken raw) := by cases valid (lastToken raw) <;> rfl
      rw [hopen] at hrest
      rw [if_pos h, inside_header h]
      exact amounts_header h Source.diskGeometry valid open?.isSome hrest
    · have hline : isBlockHeader (trim raw) = false := by simpa using h
      rw [if_neg h, inside_line hline]
      refine (amounts_line hline Source.diskGeometry valid open?.isSome
        (amounts_diskLine open? (trim raw)) (ih open?)).congr fun _ _ => ?_
      simp only [tallied_append, tallied_sizeTallies_append]

end StorageInventory.Pass
