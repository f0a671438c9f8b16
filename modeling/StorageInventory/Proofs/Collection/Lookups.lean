import Mathlib.Tactic
import StorageInventory.Proofs.Collection.Accounting
import StorageInventory.Proofs.Session.Lookups
import StorageInventory.Proofs.Session.PassOrder

/-!
# Lookups of minor numbers

A collection asks once for every partition that it accepts, in the order of the lines, and for
nothing else.  What the answer for a name says is the minor number of the partitions of that name;
an answer that says none counts as a failed lookup, and nothing else depends on answers.

* `answeredNumber` — the number that an answer says,
* `asked_collect` — the names that are asked for,
* `collect_lookups` — what becomes of the answers, and of a different answer for one name.
-/

namespace StorageInventory

open Diagnostics Name Number Pass Text

/-! ## What an answer says -/

/-- The number that an answer says: the first word of its first line that is not blank, if that is a
whole number. -/
def answeredNumber : Finding → Option Int
  | .ok (some lines) =>
    (lines.findSome? fun line => (tokens line).head?).bind fun word => (readInteger word).toOption
  | _ => none

/-- The first line that is not blank begins with the first word of all lines. -/
theorem firstLine_eq_some {lines : List Text} {line : Text} (h : firstLine lines = some line) :
    ∃ word more, tokens line = word :: more ∧
      (lines.findSome? fun line => (tokens line).head?) = some word := by
  induction lines with
  | nil => simp [firstLine] at h
  | cons first rest ih =>
    rw [firstLine] at h
    split at h
    · next hblank =>
      obtain ⟨word, more, htokens, hword⟩ := ih h
      rw [List.findSome?_cons, trim_eq_nil_iff.1 hblank]
      exact ⟨word, more, htokens, hword⟩
    · next hline =>
      obtain rfl := Option.some.inj h
      obtain ⟨word, more, hwords⟩ := List.exists_cons_of_ne_nil (mt trim_eq_nil_iff.2 hline)
      rw [List.findSome?_cons, tokens_trim, hwords]
      exact ⟨word, more, rfl, rfl⟩

/-- Where every line is blank, there is no word. -/
theorem firstLine_eq_none {lines : List Text} (h : firstLine lines = none) :
    (lines.findSome? fun line => (tokens line).head?) = none := by
  induction lines with
  | nil => rfl
  | cons first rest ih =>
    rw [firstLine] at h
    split at h
    · next hblank =>
      rw [List.findSome?_cons, trim_eq_nil_iff.1 hblank]
      exact ih h
    · simp at h

/-- What is read of a finding is the number that it answers. -/
theorem getLeft?_readMinor (name : Text) (finding : Finding) :
    (readMinor name finding).getLeft? = answeredNumber finding := by
  rcases finding with fault | _ | lines
  · rfl
  · rfl
  · rw [readMinor, answeredNumber]
    cases hfirst : firstLine lines with
    | none => rw [firstLine_eq_none hfirst, Option.bind_none, Sum.getLeft?_inr]
    | some line =>
      obtain ⟨word, more, htokens, hword⟩ := firstLine_eq_some hfirst
      dsimp only
      rw [hword, htokens, List.headD_cons, Option.bind_some]
      cases readInteger word <;> rfl

/-- A name has the number of its answer, or zero. -/
theorem numberBy_eq (lookup : Text → Answer) (answer : Text → Finding) (name : Text) :
    numberBy (some lookup) answer name = (answeredNumber (answer name)).getD 0 := by
  rw [numberBy, Option.isSome_some, if_pos rfl, Session.minorOf, getLeft?_readMinor]

/-- A lookup fails if its answer has no number. -/
theorem failedBy_eq (lookup : Text → Answer) (answer : Text → Finding) (name : Text) :
    failedBy (some lookup) answer name = (answeredNumber (answer name)).isNone := by
  rw [failedBy, Option.isSome_some, Bool.true_and, ← getLeft?_readMinor name]
  cases readMinor name (answer name) <;> rfl

/-! ## What is asked -/

section

variable {p : Provider} {rule : NamingRule} {timestamp : Int} {snapshot : Snapshot}

/-- Once the partitions are attached, nothing more is asked for. -/
theorem asked_present {lines : List Text} {s : Session}
    (hpass : (readPartitionGeometry rule (some p.minor) lines s).2 = none) :
    (present p rule lines s).1.asked =
      (readPartitionGeometry rule (some p.minor) lines s).1.asked := by
  have hasked := Session.asked_snapshot (readPartitionGeometry rule (some p.minor) lines s).1
  rw [present, ← Prod.mk.eta (p := readPartitionGeometry rule (some p.minor) lines s), hpass]
  dsimp only
  rcases hsnapshot : Session.snapshot _ with ⟨t, fault | snapshot⟩
  · rw [hsnapshot] at hasked
    exact hasked
  · rw [hsnapshot] at hasked
    exact hasked

/-- A collection that comes to a snapshot has asked for the names of its partitions, each as often
as it is accepted, in the order of the lines. -/
theorem asked_collect (hok : (collect p rule timestamp).2 = .ok snapshot) :
    (collect p rule timestamp).1.asked = (gather p timestamp).2.names rule := by
  have hscope : (gather p timestamp).1.isValid = (gather p timestamp).2.isValid :=
    (gather_sameStore p timestamp).isValid
  rw [collect_eq] at hok ⊢
  obtain ⟨hpass, -⟩ := present_eq_ok_iff.1 hok
  have hasked := asked_readPartitionGeometry hpass
  rw [asked_gather, List.nil_append, hscope] at hasked
  exact (asked_present hpass).trans hasked

/-! ## What becomes of the answers -/

/-- The lookups that a snapshot counts are those whose answer says no number. -/
theorem counted_minor {answer : Text → Finding} (hanswers : AnswersBy (some p.minor) answer)
    (hok : (collect p rule timestamp).2 = .ok snapshot) (kind : Text) :
    snapshot.counted Source.minor kind =
      shown (tallied Source.minor kind
        (lookupTallies (fun name => (answeredNumber (answer name)).isNone)
          ((gather p timestamp).2.names rule))) := by
  have hfailed : failedBy (some p.minor) answer =
      fun name => (answeredNumber (answer name)).isNone := funext (failedBy_eq p.minor answer)
  have haccount : tallied Source.minor kind ((gather p timestamp).2.account rule) = 0 :=
    tallied_eq_zero fun t ht heq => (Listings.pairs_account rule _).2 t ht heq.1
  rw [Snapshot.counted, collect_diagnostics hanswers.failsBy hok,
    reported_report distinct_empty.recordAll, hfailed,
    (Listings.amounts_events rule _ _).recorded, tallied_append, haccount, zero_add]

end

/-- The disk with other minor numbers. -/
def Disk.renumbered (minor : Text → Int) (d : Disk) : Disk :=
  { d with partitions := d.partitions.map (Session.numbered minor) }

/-- The disk with the minor number of the partitions of one name changed. -/
def Disk.withMinor (name : Text) (number : Int) (d : Disk) : Disk :=
  { d with
    partitions := d.partitions.map fun p =>
      if p.name = name then { p with minorNumber := number } else p }

namespace Listings

variable {rule : NamingRule} {minor minor' : Text → Int} {l : Listings} {timestamp : Int}
  {snapshot snapshot' : Snapshot}

/-- Only the numbers of the partitions that a device gains depend on the lookups. -/
theorem gained_renumbered (rule : NamingRule) (minor minor' : Text → Int) (l : Listings)
    (device : Text) :
    l.gained rule minor' device =
      (l.gained rule minor device).map (Session.numbered minor') := by
  rw [gained, gained, ← gained_map, List.map_map]
  congr 1
  refine List.map_congr_left fun b _ => ?_
  rw [Function.comp_apply, Block.batch, Block.batch, List.map_map]
  rfl

/-- A partition that a device gains has the number of its name. -/
theorem minorNumber_of_mem_gained {device : Text} {partition : Partition}
    (h : partition ∈ l.gained rule minor device) :
      partition.minorNumber = minor partition.name := by
  rw [gained_renumbered rule minor minor] at h
  obtain ⟨q, -, rfl⟩ := List.mem_map.1 h
  rfl

/-- The minor numbers in a snapshot are those of the names. -/
theorem Holds.minorNumber (h : l.Holds rule minor timestamp snapshot) {disk : Disk}
    (hdisk : disk ∈ snapshot.disks) {partition : Partition} (hp : partition ∈ disk.partitions) :
    partition.minorNumber = minor partition.name :=
  minorNumber_of_mem_gained (name_of_lastNamed (((h.settles hdisk).2 partition).1 hp)).1

/-- With other minor numbers, the snapshot shows the same disks otherwise. -/
theorem Holds.disks_renumbered (h : l.Holds rule minor timestamp snapshot)
    (h' : l.Holds rule minor' timestamp snapshot') :
    snapshot'.disks = snapshot.disks.map (Disk.renumbered minor') := by
  have hdisk : ∀ name, snapshot'.diskNamed name =
      (snapshot.diskNamed name).renumbered minor' := by
    intro name
    obtain ⟨partitions, hsettles, hnamed⟩ := h.diskNamed name
    obtain ⟨partitions', hsettles', hnamed'⟩ := h'.diskNamed name
    rw [gained_renumbered rule minor minor'] at hsettles'
    have hmap : Settles ((l.gained rule minor name).map (Session.numbered minor'))
        (partitions.map (Session.numbered minor')) := hsettles.map (Session.name_numbered minor')
    rw [hnamed, hnamed', hsettles'.unique hmap]
    rfl
  calc snapshot'.disks
      = (snapshot'.disks.map Disk.name).map snapshot'.diskNamed := h'.disks_eq
    _ = (snapshot.disks.map Disk.name).map (Disk.renumbered minor' ∘ snapshot.diskNamed) := by
        rw [← h.map_name_eq h' fun _ => Iff.rfl]
        exact List.map_congr_left fun name _ => hdisk name
    _ = snapshot.disks.map (Disk.renumbered minor') := by rw [← List.map_map, ← h.disks_eq]

/-- If the numbers differ in one name, so do the disks. -/
theorem Holds.disks_withMinor (h : l.Holds rule minor timestamp snapshot)
    (h' : l.Holds rule minor' timestamp snapshot') {name : Text}
    (hsame : ∀ other, other ≠ name → minor' other = minor other) :
    snapshot'.disks = snapshot.disks.map (Disk.withMinor name (minor' name)) := by
  rw [h.disks_renumbered h']
  refine List.map_congr_left fun disk hdisk => ?_
  rw [Disk.renumbered, Disk.withMinor]
  congr 1
  refine List.map_congr_left fun p hp => ?_
  split
  · next hname => rw [Session.numbered, hname]
  · next hname => rw [Session.numbered, hsame p.name hname, ← h.minorNumber hdisk hp]

end Listings

/-! ## Collections -/

section

variable {p : Provider} {rule : NamingRule} {timestamp : Int} {snapshot : Snapshot}
  {answer : Text → Finding}

/-- A collection with other lookups comes to a snapshot as well. -/
theorem collect_isOk_withLookup (hok : (collect p rule timestamp).2 = .ok snapshot)
    (lookup : Text → Answer) :
    ∃ snapshot', (collect { p with minor := lookup } rule timestamp).2 = .ok snapshot' := by
  -- whether it does is told by the names alone, and these are the same
  have hnames := collect_isOk_iff_names.1 ⟨snapshot, hok⟩
  exact collect_isOk_iff_names.2 hnames

/-- Other lookups change what is counted of them, and no other count. -/
theorem counted_withLookup (hanswers : AnswersBy (some p.minor) answer)
    (hok : (collect p rule timestamp).2 = .ok snapshot) {lookup : Text → Answer}
    {answer' : Text → Finding} (hanswers' : AnswersBy (some lookup) answer')
    {snapshot' : Snapshot}
    (hok' : (collect { p with minor := lookup } rule timestamp).2 = .ok snapshot')
    {source kind : Text} (hne : ¬ (source = Source.minor ∧ kind = EventKind.lookupFailed)) :
    snapshot'.counted source kind = snapshot.counted source kind := by
  by_cases hsource : source = Source.minor
  · subst hsource
    have hother : ∀ (failed : Text → Bool) names,
        tallied Source.minor kind (lookupTallies failed names) = 0 := fun failed names =>
      tallied_eq_zero fun t ht heq => hne ⟨rfl, by rw [← heq.2, List.mem_singleton.1 ht]⟩
    rw [counted_minor hanswers' hok', counted_minor hanswers hok, hother, hother]
  · rw [collect_counted hok' hsource, collect_counted hok hsource]
    rfl

/-- A collection asks for the names of the partitions that the rule accepts in blocks in scope, once
for each, in the order of the lines.  A partition has the number that the answer for its name says,
or zero if it says none, and the answers that say none are counted.  A different answer for one name
changes the numbers of the partitions of that name, that count, and nothing else. -/
theorem collect_lookups (hanswers : AnswersBy (some p.minor) answer)
    (hok : (collect p rule timestamp).2 = .ok snapshot) :
    (collect p rule timestamp).1.asked = (gather p timestamp).2.names rule ∧
      (∀ disk ∈ snapshot.disks, ∀ partition ∈ disk.partitions,
        partition.minorNumber = (answeredNumber (answer partition.name)).getD 0) ∧
      snapshot.counted Source.minor EventKind.lookupFailed =
        shown (((gather p timestamp).2.names rule).countP fun name =>
          (answeredNumber (answer name)).isNone) ∧
      ∀ (lookup : Text → Answer) (answer' : Text → Finding) (name : Text),
        AnswersBy (some lookup) answer' → (∀ other, other ≠ name → answer' other = answer other) →
        ∃ snapshot', (collect { p with minor := lookup } rule timestamp).2 = .ok snapshot' ∧
          snapshot'.timestamp = snapshot.timestamp ∧
          snapshot'.disks = snapshot.disks.map
            (Disk.withMinor name ((answeredNumber (answer' name)).getD 0)) ∧
          ∀ source kind, ¬ (source = Source.minor ∧ kind = EventKind.lookupFailed) →
            snapshot'.counted source kind = snapshot.counted source kind := by
  have hs := collect_holds hanswers.numbersBy hok
  refine ⟨asked_collect hok, fun disk hdisk partition hp => ?_, ?_, ?_⟩
  · rw [hs.minorNumber hdisk hp, numberBy_eq]
  · rw [counted_minor hanswers hok, lookupTallies, tallied_cons, tallied_nil,
      add_zero, Tally.toward,
      if_pos ⟨rfl, rfl⟩]
  · intro lookup answer' name hanswers' hsame
    obtain ⟨snapshot', hok'⟩ := collect_isOk_withLookup hok lookup
    have hs' : (gather p timestamp).2.Holds rule (numberBy (some lookup) answer') timestamp
        snapshot' := collect_holds (p := { p with minor := lookup }) hanswers'.numbersBy hok'
    have hnumbers : ∀ other, other ≠ name →
        numberBy (some lookup) answer' other = numberBy (some p.minor) answer other := by
      intro other hne
      rw [numberBy_eq, numberBy_eq, hsame other hne]
    refine ⟨snapshot', hok', hs'.timestamp_eq.trans hs.timestamp_eq.symm, ?_, fun source kind hne =>
      counted_withLookup hanswers hok hanswers' hok' hne⟩
    rw [hs.disks_withMinor hs' hnumbers, numberBy_eq]

end

/-- Two partitions, for one of which the lookup fails, and then the same with its answer changed. -/
theorem collect_lookups_ada0 :
    let answer : Text → Finding := fun name =>
      if name = "ada0p1".toList then .ok (some [" ".toList, " 110 x".toList]) else .error .noLines
    let answer' : Text → Finding := fun name =>
      if name = "ada0p2".toList then .ok (some ["7".toList]) else answer name
    let findings : Findings :=
      { devices := .ok ["ada0".toList], mounts := .ok none, counters := .ok none
        diskGeometry := .ok none
        partitionGeometry := .ok
          ["Geom name: ada0".toList, "1. Name: ada0p1".toList, "2. Name: ada0p2".toList,
            "Geom name: ada0".toList, "1. Name: ada0p1".toList]
        minor := answer }
    let p := Provider.ofFindings findings
    ∃ snapshot snapshot', (collect p geometryRule 7).2 = .ok snapshot ∧
      (collect p geometryRule 7).1.asked =
        ["ada0p1".toList, "ada0p2".toList, "ada0p1".toList] ∧
      snapshot.counted Source.minor EventKind.lookupFailed = some 1 ∧
      (collect { p with minor := fun name => .of (answer' name) } geometryRule 7).2 =
        .ok snapshot' ∧
      snapshot'.disks = snapshot.disks.map (Disk.withMinor "ada0p2".toList 7) := by
  intro answer answer' findings p
  obtain ⟨snapshot, hok⟩ : ∃ snapshot, (collect p geometryRule 7).2 = .ok snapshot := ⟨_, rfl⟩
  obtain ⟨hasked, -, hcount, hother⟩ := collect_lookups (answersBy_of answer) hok
  obtain ⟨snapshot', hok', -, hdisks, -⟩ :=
    hother _ answer' "ada0p2".toList (answersBy_of answer') fun _ hne => if_neg hne
  rw [listings_gather_ofFindings] at hasked hcount
  exact ⟨snapshot, snapshot', hok, hasked.trans (by decide), hcount.trans (by decide), hok', hdisks⟩

end StorageInventory
