import Mathlib.Tactic
import StorageInventory.Proofs.Pass.PassEdits
import StorageInventory.Proofs.Pass.PassEvents
import StorageInventory.Proofs.Session.Operations

/-!
# The order of the passes

The counters, the disk geometry and the partition geometry can be read in any order.  Each pass is
edits of the disks and events, both the same wherever the pass stands; edits within different facets
commute, and events add up.  A pass that would fail on its own fails wherever it stands, since no
other pass takes away or adds a name that it stumbles over.

* `perform_describes` — what one pass does, as edits and events,
* `isOk_after_pass` — a pass that succeeds has no influence on whether another one does,
* `performAll_describes`, `performAll_isOk_iff` — the same for a run of passes,
* `performAll_passes_perm` — two orders of the three passes leave the same disks and counts, and so
  the same snapshot.
-/

namespace StorageInventory

open Name Pass

/-- Lookups answer as a function of the name, whatever happened before. -/
def AnswersBy (lookup : Option (Text → Answer)) (answer : Text → Finding) : Prop :=
  ∀ l, lookup = some l → ∀ name before, ((l name).run before).1 = answer name

/-- The minor number that comes of an answer, zero without lookups. -/
def numberBy (lookup : Option (Text → Answer)) (answer : Text → Finding) (name : Text) : Int :=
  if lookup.isSome then Session.minorOf name (answer name) else 0

/-- The lookup fails with its answer; without lookups none does. -/
def failedBy (lookup : Option (Text → Answer)) (answer : Text → Finding) (name : Text) : Bool :=
  lookup.isSome && (readMinor name (answer name)).isRight

/-- Answers that are known beforehand are given whatever happened. -/
theorem answersBy_of (answer : Text → Finding) :
    AnswersBy (some fun name => .of (answer name)) answer := by
  intro lookup hlookup name before
  obtain rfl := Option.some.inj hlookup
  rfl

/-- If the answers depend on the names only, so do the numbers. -/
theorem AnswersBy.numbersBy {lookup : Option (Text → Answer)} {answer : Text → Finding}
    (h : AnswersBy lookup answer) : Session.NumbersBy lookup (numberBy lookup answer) := by
  cases lookup with
  | none => exact fun _ => rfl
  | some l => exact fun name before => congrArg (Session.minorOf name) (h l rfl name before)

/-- If the answers depend on the names only, so does which lookups fail. -/
theorem AnswersBy.failsBy {lookup : Option (Text → Answer)} {answer : Text → Finding}
    (h : AnswersBy lookup answer) : Session.FailsBy lookup (failedBy lookup answer) := by
  cases lookup with
  | none => exact fun _ => rfl
  | some l =>
    intro name before
    rw [h l rfl, failedBy]
    rfl

namespace Operation

/-- A pass over a source that describes disks. -/
inductive Describes (answer : Text → Finding) : Operation → Prop
  | counters (lines : List Text) : Describes answer (.readCounters lines)
  | diskGeometry (lines : List Text) : Describes answer (.readDiskGeometry lines)
  | partitionGeometry (rule : NamingRule) (lookup : Option (Text → Answer)) (lines : List Text)
    (answers : AnswersBy lookup answer) :
    Describes answer (.readPartitionGeometry rule lookup lines)

/-- The edits that a pass makes. -/
def edits (answer : Text → Finding) (s : Session) : Operation → List DiskEdit
  | .readCounters lines => counterEdits s.timestamp s.isValid lines
  | .readDiskGeometry lines => geometryEdits s.isValid lines
  | .readPartitionGeometry rule lookup lines =>
    attachments rule s.mounts (numberBy lookup answer) s.isValid (blocksOf lines)
  | _ => []

/-- The events that a pass records. -/
def events (answer : Text → Finding) (s : Session) : Operation → List Tally
  | .readCounters lines => lines.flatMap (counterLineEvents s.isValid)
  | .readDiskGeometry lines => diskEvents s.isValid none lines
  | .readPartitionGeometry rule lookup lines =>
    partitionEvents rule s.isValid s.mounts (failedBy lookup answer) .noEntity lines
  | _ => []

end Operation

/-! ## One pass -/

/-- An operation without a snapshot is well exactly if it has no fault. -/
theorem Outcome.ofFault_eq_ok_iff {fault : Option Fault} :
    Outcome.ofFault fault = .ok none ↔ fault = none := by
  cases fault <;> simp [Outcome.ofFault]

variable {answer : Text → Finding} {op op' : Operation} {s : Session}

/-- A pass that succeeds makes its edits and records its events, and nothing else. -/
theorem perform_describes (h : op.Describes answer) (hok : (perform op s).2 = .ok none) :
    (perform op s).1.SameStore { s with disks := applyEdits (op.edits answer s) s.disks } ∧
      (perform op s).1.diagnostics = s.diagnostics.recordAll (op.events answer s) := by
  cases h with
  | counters lines => exact ⟨readCounters_sameStore lines s, readCounters_diagnostics lines s⟩
  | diskGeometry lines =>
    exact ⟨readDiskGeometry_sameStore lines s, readDiskGeometry_diagnostics lines s⟩
  | partitionGeometry rule lookup lines answers =>
    have hnone := Outcome.ofFault_eq_ok_iff.1 hok
    exact ⟨readPartitionGeometry_sameStore answers.numbersBy hnone,
      readPartitionGeometry_diagnostics answers.failsBy hnone⟩

/-- What a pass does depends on the scope, the mount points and the moment alone. -/
theorem describes_congr {s t : Session} {disks : Table Disk}
    (h : t.SameStore { s with disks := disks }) (op : Operation) :
    op.edits answer t = op.edits answer s ∧ op.events answer t = op.events answer s := by
  have hscope : t.isValid = s.isValid := h.isValid
  have hmounts : t.mounts = s.mounts := h.mounts
  have htime : t.timestamp = s.timestamp := h.timestamp
  cases op <;> simp only [Operation.edits, Operation.events, hscope, hmounts, htime, and_self]

/-- Edits that do not touch partitions leave to every block what it found. -/
theorem attaches_applyEdits_iff {edits : List DiskEdit} (h : ∀ e ∈ edits, IsPlain e)
    (rule : NamingRule) (lookup : Option (Text → Answer)) (mounts : Table Text)
    (disks : Table Disk) (b : Block) :
    b.Attaches rule lookup mounts (applyEdits edits disks) ↔
      b.Attaches rule lookup mounts disks := by
  rw [Block.Attaches, Block.Attaches, diskOf_applyEdits, partitions_editsOf h]

/-- A pass that succeeds leaves to every block what it found. -/
theorem attaches_after_pass (h : op.Describes answer) (hok : (perform op s).2 = .ok none)
    (rule : NamingRule) (lookup : Option (Text → Answer)) (b : Block) :
    b.Attaches rule lookup (perform op s).1.mounts (perform op s).1.disks ↔
      b.Attaches rule lookup s.mounts s.disks := by
  cases h with
  | counters lines =>
    have hstore := readCounters_sameStore lines s
    rw [perform, hstore.mounts, hstore.disks]
    exact attaches_applyEdits_iff isPlain_counterEdits rule lookup s.mounts s.disks b
  | diskGeometry lines =>
    have hstore := readDiskGeometry_sameStore lines s
    rw [perform, hstore.mounts, hstore.disks]
    exact attaches_applyEdits_iff isPlain_geometryEdits rule lookup s.mounts s.disks b
  | partitionGeometry rule' lookup' lines answers =>
    obtain ⟨halike, hfault⟩ := readPartitionGeometry_agrees rule' lookup' lines s
    have hblocks := hfault ▸ Outcome.ofFault_eq_ok_iff.1 hok
    have hmounts : (perform (.readPartitionGeometry rule' lookup' lines) s).1.mounts = _ :=
      halike.sameStore.mounts
    have hdisks : (perform (.readPartitionGeometry rule' lookup' lines) s).1.disks = _ :=
      halike.sameStore.disks
    rw [hmounts, hdisks]
    exact attaches_after_readBlocks hblocks rule lookup b

/-- A pass that succeeds has no influence on whether another one does. -/
theorem isOk_after_pass (h : op.Describes answer) (h' : op'.Describes answer)
    (hok : (perform op s).2 = .ok none) :
    (perform op' (perform op s).1).2 = .ok none ↔ (perform op' s).2 = .ok none := by
  have hscope : (perform op s).1.isValid = s.isValid := (perform_describes h hok).1.isValid
  cases h' with
  | counters lines => exact Iff.rfl
  | diskGeometry lines => exact Iff.rfl
  | partitionGeometry rule lookup lines answers =>
    have hblocks : ∀ t : Session,
        (perform (.readPartitionGeometry rule lookup lines) t).2 = .ok none ↔
          ∀ b ∈ kept t.isValid (blocksOf lines), b.Attaches rule lookup t.mounts t.disks := by
      intro t
      rw [← readBlocks_isOk_iff, ← (readPartitionGeometry_agrees rule lookup lines t).2]
      exact Outcome.ofFault_eq_ok_iff
    rw [hblocks, hblocks, hscope]
    exact forall_congr' fun b => imp_congr_right fun _ => attaches_after_pass h hok rule lookup b

/-! ## A run of passes -/

variable {ops : List Operation}

/-- A run of passes succeeds exactly if each of them would on its own. -/
theorem performAll_isOk_iff (h : ∀ op ∈ ops, op.Describes answer) :
    (∀ outcome ∈ (performAll ops s).2, outcome = .ok none) ↔
      ∀ op ∈ ops, (perform op s).2 = .ok none := by
  induction ops generalizing s with
  | nil => simp [performAll]
  | cons op rest ih =>
    have hop := h op List.mem_cons_self
    have hrest : ∀ op' ∈ rest, op'.Describes answer := fun op' hop' =>
      h op' (List.mem_cons_of_mem op hop')
    rw [performAll, List.forall_mem_cons, List.forall_mem_cons]
    refine and_congr_right fun hok => ?_
    rw [ih hrest]
    exact forall₂_congr fun op' hop' => isOk_after_pass hop (hrest op' hop') hok

/-- A run of passes that succeeds makes their edits and records their events. -/
theorem performAll_describes (h : ∀ op ∈ ops, op.Describes answer)
    (hok : ∀ outcome ∈ (performAll ops s).2, outcome = .ok none) :
    (performAll ops s).1.SameStore
        { s with disks := applyEdits (ops.map (Operation.edits answer s)).flatten s.disks } ∧
      (performAll ops s).1.diagnostics =
        s.diagnostics.recordAll (ops.map (Operation.events answer s)).flatten := by
  induction ops generalizing s with
  | nil => exact ⟨.refl s, rfl⟩
  | cons op rest ih =>
    rw [performAll, List.forall_mem_cons] at hok
    obtain ⟨hstore, hcounts⟩ := perform_describes (h op List.mem_cons_self) hok.1
    obtain ⟨hrest, hrestCounts⟩ := ih (fun op' hop' => h op' (List.mem_cons_of_mem op hop')) hok.2
    -- the other passes do what they would have done to the first session
    have hedits : Operation.edits answer (perform op s).1 = Operation.edits answer s :=
      funext fun op' => (describes_congr hstore op').1
    have hevents : Operation.events answer (perform op s).1 = Operation.events answer s :=
      funext fun op' => (describes_congr hstore op').2
    rw [hedits] at hrest
    rw [hevents, hcounts] at hrestCounts
    rw [List.map_cons, List.flatten_cons, applyEdits_append, List.map_cons, List.flatten_cons,
      Diagnostics.recordAll_append]
    exact ⟨hrest.trans (sameStore_edits hstore _), hrestCounts⟩

/-! ## The three passes -/

/-- The three passes over the sources that describe disks. -/
def threePasses (counters diskGeometry : List Text) (rule : NamingRule)
    (lookup : Option (Text → Answer)) (partitionGeometry : List Text) : List Operation :=
  [.readCounters counters, .readDiskGeometry diskGeometry,
    .readPartitionGeometry rule lookup partitionGeometry]

section

variable {counters diskGeometry partitionGeometry : List Text} {rule : NamingRule}
  {lookup : Option (Text → Answer)}

/-- The three passes do what their edits and events describe. -/
theorem describes_threePasses (h : AnswersBy lookup answer) :
    ∀ op ∈ threePasses counters diskGeometry rule lookup partitionGeometry,
      op.Describes answer := by
  intro op hop
  rw [threePasses, List.mem_cons, List.mem_cons, List.mem_singleton] at hop
  rcases hop with rfl | rfl | rfl
  · exact .counters counters
  · exact .diskGeometry diskGeometry
  · exact .partitionGeometry rule lookup partitionGeometry h

/-- The edits of the three passes. -/
theorem edits_threePasses :
    (threePasses counters diskGeometry rule lookup partitionGeometry).map
        (Operation.edits answer s) =
      [counterEdits s.timestamp s.isValid counters, geometryEdits s.isValid diskGeometry,
        attachments rule s.mounts (numberBy lookup answer) s.isValid
          (blocksOf partitionGeometry)] := rfl

/-- The edits of the three passes commute, each being within a facet of its own. -/
theorem commuteEdits_threePasses :
    ∀ a ∈ (threePasses counters diskGeometry rule lookup partitionGeometry).map
        (Operation.edits answer s),
      ∀ b ∈ (threePasses counters diskGeometry rule lookup partitionGeometry).map
          (Operation.edits answer s), CommuteEdits a b := by
  -- every two of the passes write different facets
  have hcg : CommuteEdits (counterEdits s.timestamp s.isValid counters)
      (geometryEdits s.isValid diskGeometry) :=
    commuteEdits_of_independent Facet.throughput_geometry within_counterEdits within_geometryEdits
  have hcp : CommuteEdits (counterEdits s.timestamp s.isValid counters)
      (attachments rule s.mounts (numberBy lookup answer) s.isValid (blocksOf partitionGeometry)) :=
    commuteEdits_of_independent Facet.throughput_partitions within_counterEdits within_attachments
  have hgp : CommuteEdits (geometryEdits s.isValid diskGeometry)
      (attachments rule s.mounts (numberBy lookup answer) s.isValid (blocksOf partitionGeometry)) :=
    commuteEdits_of_independent Facet.geometry_partitions within_geometryEdits within_attachments
  intro a ha b hb
  rw [edits_threePasses, List.mem_cons, List.mem_cons, List.mem_singleton] at ha hb
  rcases ha with rfl | rfl | rfl <;> rcases hb with rfl | rfl | rfl
  · exact fun _ => rfl
  · exact hcg
  · exact hcp
  · exact hcg.symm
  · exact fun _ => rfl
  · exact hgp
  · exact hcp.symm
  · exact hgp.symm
  · exact fun _ => rfl

/-- The three passes file every record under its own name. -/
theorem keepsName_threePasses :
    ∀ edits ∈ (threePasses counters diskGeometry rule lookup partitionGeometry).map
        (Operation.edits answer s), ∀ e ∈ edits, e.KeepsName := by
  intro edits hedits e he
  rw [edits_threePasses, List.mem_cons, List.mem_cons, List.mem_singleton] at hedits
  rcases hedits with rfl | rfl | rfl
  · exact (within_counterEdits e he).keepsName
  · exact (within_geometryEdits e he).keepsName
  · exact (within_attachments e he).keepsName

/-- The three passes leave a session whose disks and counts can be told without their order. -/
theorem performAll_of_perm (hanswers : AnswersBy lookup answer) (hstored : Stored s.disks)
    (hdistinct : s.diagnostics.Distinct)
    (hperm : ops.Perm (threePasses counters diskGeometry rule lookup partitionGeometry))
    (hok : ∀ outcome ∈ (performAll ops s).2, outcome = .ok none) :
    let passes := threePasses counters diskGeometry rule lookup partitionGeometry
    Stored (performAll ops s).1.disks ∧ (performAll ops s).1.diagnostics.Distinct ∧
      (performAll ops s).1.timestamp = s.timestamp ∧
      (∀ name, (performAll ops s).1.disks.get? name =
        Table.get? (applyEdits (passes.map (Operation.edits answer s)).flatten s.disks) name) ∧
      ∀ source kind, (performAll ops s).1.diagnostics.recorded source kind =
        (s.diagnostics.recordAll (passes.map (Operation.events answer s)).flatten).recorded
          source kind := by
  intro passes
  have hdescribes : ∀ op ∈ ops, op.Describes answer := fun op hop =>
    describes_threePasses hanswers op (hperm.mem_iff.1 hop)
  obtain ⟨hstore, hcounts⟩ := performAll_describes hdescribes hok
  -- any order of the passes makes the same edits and counts the same events, each in its own order
  have hedits := hperm.map (Operation.edits answer s)
  have hevents := (hperm.map (Operation.events answer s)).flatten
  refine ⟨?_, hcounts ▸ hdistinct.recordAll, hstore.timestamp, fun name => ?_,
    fun source kind => ?_⟩
  · rw [hstore.disks]
    refine hstored.applyEdits fun e he => ?_
    obtain ⟨edits, hmem, he⟩ := List.mem_flatten.1 he
    exact keepsName_threePasses edits (hedits.mem_iff.1 hmem) e he
  · rw [hstore.disks]
    exact (get?_applyEdits_perm hedits.symm keepsName_threePasses commuteEdits_threePasses hstored
      name).symm
  · rw [hcounts]
    exact Diagnostics.recorded_recordAll_perm hevents s.diagnostics source kind

/-- The three passes can be made in any order: if one order succeeds then so does every other, and
it leaves the same disks and the same counts, so that the snapshot taken afterwards is the same. -/
theorem performAll_passes_perm (hanswers : AnswersBy lookup answer) (hstored : Stored s.disks)
    (hdistinct : s.diagnostics.Distinct) {first second : List Operation}
    (hfirst : first.Perm (threePasses counters diskGeometry rule lookup partitionGeometry))
    (hsecond : second.Perm (threePasses counters diskGeometry rule lookup partitionGeometry))
    (hok : ∀ outcome ∈ (performAll first s).2, outcome = .ok none) :
    (∀ outcome ∈ (performAll second s).2, outcome = .ok none) ∧
      (∀ name, (performAll first s).1.disks.get? name =
        (performAll second s).1.disks.get? name) ∧
      (∀ source kind, (performAll first s).1.diagnostics.recorded source kind =
        (performAll second s).1.diagnostics.recorded source kind) ∧
      (performAll first s).1.diagnostics.report = (performAll second s).1.diagnostics.report ∧
      ∀ snapshot, (performAll first s).1.snapshot.2 = .ok snapshot ↔
        (performAll second s).1.snapshot.2 = .ok snapshot := by
  have hdescribes : ∀ op ∈ first, op.Describes answer := fun op hop =>
    describes_threePasses hanswers op (hfirst.mem_iff.1 hop)
  have hdescribes' : ∀ op ∈ second, op.Describes answer := fun op hop =>
    describes_threePasses hanswers op (hsecond.mem_iff.1 hop)
  -- each pass succeeds on its own, so it does in the other order
  have hok' : ∀ outcome ∈ (performAll second s).2, outcome = .ok none := by
    rw [performAll_isOk_iff hdescribes] at hok
    rw [performAll_isOk_iff hdescribes']
    exact fun op hop => hok op (hfirst.mem_iff.2 (hsecond.mem_iff.1 hop))
  obtain ⟨hs, hd, htime, hdisks, hcounts⟩ :=
    performAll_of_perm hanswers hstored hdistinct hfirst hok
  obtain ⟨hs', hd', htime', hdisks', hcounts'⟩ :=
    performAll_of_perm hanswers hstored hdistinct hsecond hok'
  have hget : ∀ name, (performAll first s).1.disks.get? name =
      (performAll second s).1.disks.get? name := fun name => by rw [hdisks, hdisks']
  have hrecorded : ∀ source kind, (performAll first s).1.diagnostics.recorded source kind =
      (performAll second s).1.diagnostics.recorded source kind := fun source kind => by
    rw [hcounts, hcounts']
  have hreport := Diagnostics.report_congr hd hd' hrecorded
  exact ⟨hok', hget, hrecorded, hreport,
    snapshot_congr hs hs' hget (htime.trans htime'.symm) hreport⟩

end

/-- The three passes in two orders, with one block and a lookup. -/
theorem performAll_passes_perm_ada0 :
    let lookup : Text → Answer := fun _ => .ofLines ["110".toList]
    let s : Session :=
      { valid := ["ada0".toList], disks := [("ada0".toList, { name := "ada0".toList })]
        mounts := [("ada0p1".toList, "/".toList)], timestamp := 7 }
    let counters := ["ada0 1 2 3 4 0 0 5".toList, "short row".toList]
    let diskGeometry := ["Geom name: ada0".toList, "   descr: disk".toList]
    let partitionGeometry := ["Geom name: ada0".toList, "1. Name: ada0p1".toList]
    let first := threePasses counters diskGeometry geometryRule (some lookup) partitionGeometry
    (∀ outcome ∈ (performAll first s).2, outcome = .ok none) ∧
      ∀ snapshot, (performAll first s).1.snapshot.2 = .ok snapshot ↔
        (performAll first.reverse s).1.snapshot.2 = .ok snapshot := by
  intro lookup s counters diskGeometry partitionGeometry first
  have hanswers : AnswersBy (some lookup) fun _ => .ok (some ["110".toList]) := by
    intro l hl name before
    obtain rfl := Option.some.inj hl
    rfl
  have hstored : Stored s.disks := ⟨by decide, by decide⟩
  have hok : (performAll first s).2 = [.ok none, .ok none, .ok none] := rfl
  have hall : ∀ outcome ∈ (performAll first s).2, outcome = .ok none := by
    rw [hok]
    simp
  exact ⟨hall, (performAll_passes_perm hanswers hstored Diagnostics.distinct_empty (.refl first)
    (List.reverse_perm first) hall).2.2.2.2⟩

end StorageInventory
