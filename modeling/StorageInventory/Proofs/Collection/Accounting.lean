import Mathlib.Tactic
import StorageInventory.Proofs.Collection.Contents
import StorageInventory.Proofs.Pass.PartitionAmounts

/-!
# What the diagnostics of a snapshot account for

The diagnostics of a snapshot are told from the lines that the collection has read: every count is
the number of the lines of a sort, or of columns that cannot be read, and nothing is counted
besides.  Only the lookups that fail depend on more than the lines.

* `collect_diagnostics` — a snapshot reports the events of its listings, and those of its lookups,
* `collect_counted` — but for the lookups, whatever these answer,
* `Listings.amounts_events` — the events of listings amount to their account,
* `collect_accounts` — the counts of a snapshot are those of the account of its listings.
-/

namespace StorageInventory

open Diagnostics Name Pass

/-- The count that a snapshot shows for a kind of events at a source, if it shows one. -/
def Snapshot.counted (snapshot : Snapshot) (source kind : Text) : Option Int :=
  reported snapshot.diagnostics source kind

/-! ## The events of a collection -/

/-- The events of reading a source. -/
def fetchEvents (source : Text) (lines : List Text) : List Tally :=
  if lines = [] then [event source EventKind.unavailable] else []

/-- Reading a source counts it as unavailable if it gives no lines. -/
theorem fetch_diagnostics (s : Session) (source : Text) (answer : Answer) :
    (s.fetch source answer).1.diagnostics =
      s.diagnostics.recordAll (fetchEvents source (s.fetch source answer).2) := by
  rw [fetch_lines, Session.fetch, fetchEvents]
  rcases answer.run s.journal with ⟨fault | lines, entries⟩
  · rfl
  · rw [findingLines]
    dsimp only
    split <;> rfl

namespace Listings

/-- The events of gathering the listings. -/
def gatherEvents (l : Listings) : List Tally :=
  fetchEvents Source.devices l.devices ++
    (fetchEvents Source.mounts l.mounts ++ (l.mounts.flatMap mountLineEvents ++
      (fetchEvents Source.counters l.counters ++
        (l.counters.flatMap (counterLineEvents l.isValid) ++
          (fetchEvents Source.diskGeometry l.diskGeometry ++
            (diskEvents l.isValid none l.diskGeometry ++
              fetchEvents Source.partitionGeometry l.partitionGeometry))))))

/-- All events of the listings, given which lookups fail. -/
def events (rule : NamingRule) (failed : Text → Bool) (l : Listings) : List Tally :=
  l.gatherEvents ++
    partitionEvents rule l.isValid (mountsOf l.mounts) failed .noEntity l.partitionGeometry

end Listings

/-- A collection has recorded the events of the lines that it has read. -/
theorem gather_diagnostics (p : Provider) (timestamp : Int) :
    (gather p timestamp).1.diagnostics =
      recordAll (gather p timestamp).2.gatherEvents {} := by
  let s₀ : Session := { timestamp }
  let s₁ : Session :=
    { (s₀.fetch Source.devices p.devices).1 with
      valid := (s₀.fetch Source.devices p.devices).2 }
  let fetched₂ := s₁.fetch Source.mounts p.mounts
  let s₂ := readMountTable fetched₂.2 fetched₂.1
  let fetched₃ := s₂.fetch Source.counters p.counters
  let s₃ := readCounters fetched₃.2 fetched₃.1
  let fetched₄ := s₃.fetch Source.diskGeometry p.diskGeometry
  let s₄ := readDiskGeometry fetched₄.2 fetched₄.1
  let fetched₅ := s₄.fetch Source.partitionGeometry p.partitionGeometry
  -- the devices in scope stay the same
  have h₂ : fetched₂.1.isValid = s₁.isValid := (fetch_sameStore s₁ _ _).isValid
  have h₂' : s₂.isValid = fetched₂.1.isValid := (readMountTable_sameStore _ _).isValid
  have h₃ : fetched₃.1.isValid = s₁.isValid :=
    (fetch_sameStore s₂ _ _).isValid.trans (h₂'.trans h₂)
  have h₃' : s₃.isValid = fetched₃.1.isValid := (readCounters_sameStore _ _).isValid
  have h₄ : fetched₄.1.isValid = s₁.isValid :=
    (fetch_sameStore s₃ _ _).isValid.trans (h₃'.trans h₃)
  have hgather : (gather p timestamp).1.diagnostics = fetched₅.1.diagnostics := rfl
  have hscope : (gather p timestamp).2.isValid = s₁.isValid := rfl
  rw [hgather, fetch_diagnostics, readDiskGeometry_diagnostics, fetch_diagnostics,
    readCounters_diagnostics, fetch_diagnostics, readMountTable_diagnostics, fetch_diagnostics, h₃,
    h₄, Listings.gatherEvents, hscope]
  simp only [recordAll_append]
  have hfirst : s₁.diagnostics = recordAll (fetchEvents Source.devices
      (gather p timestamp).2.devices) {} := fetch_diagnostics s₀ Source.devices p.devices
  rw [hfirst]
  rfl

/-! ## The events of a snapshot -/

section

variable {p : Provider} {rule : NamingRule} {timestamp : Int} {snapshot : Snapshot}

/-- A snapshot shows the report of the counts. -/
theorem snapshot_diagnostics {s : Session} (hok : s.snapshot.2 = .ok snapshot) :
    snapshot.diagnostics = s.diagnostics.report := by
  rw [snapshot_snd, bind_eq_ok_iff] at hok
  obtain ⟨sorted, -, hdisks⟩ := hok
  obtain ⟨disks, -, rfl⟩ := map_eq_ok_iff.1 hdisks
  rfl

/-- What a snapshot reports has been recorded once the partitions are attached. -/
theorem collect_report (hok : (collect p rule timestamp).2 = .ok snapshot) :
    (readPartitionGeometry rule (some p.minor) (gather p timestamp).2.partitionGeometry
        (gather p timestamp).1).2 = none ∧
      snapshot.diagnostics =
        (readPartitionGeometry rule (some p.minor) (gather p timestamp).2.partitionGeometry
          (gather p timestamp).1).1.diagnostics.report := by
  rw [collect_eq] at hok
  obtain ⟨hpass, hsnapshot⟩ := present_eq_ok_iff.1 hok
  exact ⟨hpass, snapshot_diagnostics hsnapshot⟩

/-- The events of the pass over partition geometry follow those of gathering. -/
theorem recordAll_partitionEvents (p : Provider) (rule : NamingRule) (timestamp : Int)
    (failed : Text → Bool) :
    recordAll (partitionEvents rule (gather p timestamp).1.isValid (gather p timestamp).1.mounts
        failed .noEntity (gather p timestamp).2.partitionGeometry)
        (gather p timestamp).1.diagnostics =
      recordAll ((gather p timestamp).2.events rule failed) {} := by
  have hs := gather_sameStore p timestamp
  have hscope : (gather p timestamp).1.isValid = (gather p timestamp).2.isValid := hs.isValid
  have hmounts : (gather p timestamp).1.mounts = mountsOf (gather p timestamp).2.mounts := hs.mounts
  rw [gather_diagnostics, Listings.events, recordAll_append, hscope, hmounts]

/-- Where it depends on the name whether a lookup fails, a snapshot reports the events of its
listings. -/
theorem collect_diagnostics {failed : Text → Bool}
    (hfails : Session.FailsBy (some p.minor) failed)
    (hok : (collect p rule timestamp).2 = .ok snapshot) :
    snapshot.diagnostics = (recordAll ((gather p timestamp).2.events rule failed) {}).report := by
  obtain ⟨hpass, hreport⟩ := collect_report hok
  rw [hreport, readPartitionGeometry_diagnostics hfails hpass, recordAll_partitionEvents]

/-- Whatever the lookups answer, a snapshot shows the other events of its listings. -/
theorem collect_counted (hok : (collect p rule timestamp).2 = .ok snapshot) {source : Text}
    (hne : source ≠ Source.minor) (kind : Text) :
    snapshot.counted source kind =
      (recordAll ((gather p timestamp).2.events rule fun _ => false) {}).recorded source kind := by
  obtain ⟨hpass, hreport⟩ := collect_report hok
  have hagree := readPartitionGeometry_agreeOff hpass
  rw [recordAll_partitionEvents] at hagree
  rw [Snapshot.counted, hreport, reported_report (hagree.distinct distinct_empty.recordAll),
    hagree.recorded source hne]

end

/-! ## The account -/

/-- The tally of a source without lines. -/
def unavailable (source : Text) (lines : List Text) : Tally :=
  ⟨source, EventKind.unavailable, if lines = [] then 1 else 0⟩

namespace Listings

/-- What is counted in the listings, but for the lookups. -/
def account (rule : NamingRule) (l : Listings) : List Tally :=
  [unavailable Source.devices l.devices, unavailable Source.mounts l.mounts,
      unavailable Source.counters l.counters, unavailable Source.diskGeometry l.diskGeometry,
      unavailable Source.partitionGeometry l.partitionGeometry] ++
    (mountTallies l.mounts ++ (counterTallies l.isValid l.counters ++
      (diskTallies l.isValid false l.diskGeometry ++
        (placeTallies Source.partitionGeometry l.isValid false l.partitionGeometry ++
          attributeTallies (described rule l.isValid l.partitionGeometry)))))

/-- A source is counted as unavailable exactly if it gives no lines. -/
theorem amounts_fetch (source : Text) (lines : List Text) :
    Amounts (fetchEvents source lines) [unavailable source lines] := by
  rw [fetchEvents, unavailable]
  split
  · exact Amounts.nil.cons (event_pos _ _)
  · exact Amounts.nil.congr fun _ _ => by simp

/-- The events of the listings amount to their account and the lookups that fail. -/
theorem amounts_events (rule : NamingRule) (failed : Text → Bool) (l : Listings) :
    Amounts (l.events rule failed) (l.account rule ++ lookupTallies failed (l.names rule)) := by
  have hgather := (amounts_fetch Source.devices l.devices).append
    ((amounts_fetch Source.mounts l.mounts).append ((amounts_mountTable l.mounts).append
      ((amounts_fetch Source.counters l.counters).append
        ((amounts_counters l.isValid l.counters).append
          ((amounts_fetch Source.diskGeometry l.diskGeometry).append
            ((amounts_diskEvents l.isValid none l.diskGeometry).append
              (amounts_fetch Source.partitionGeometry l.partitionGeometry)))))))
  have hpartitions := amounts_partitionEvents rule l.isValid (mountsOf l.mounts) failed .noEntity
    l.partitionGeometry
  have htallies : partitionTallies rule l.isValid (mountsOf l.mounts) failed .noEntity
      l.partitionGeometry =
      placeTallies Source.partitionGeometry l.isValid false l.partitionGeometry ++
        (attributeTallies (described rule l.isValid l.partitionGeometry) ++
          lookupTallies failed (l.names rule)) := rfl
  rw [htallies] at hpartitions
  refine (hgather.append hpartitions).congr fun s k => ?_
  simp only [account, tallied_append, tallied_cons, tallied_nil, Option.isSome_none]
  ring

/-- The pairs that an account is about, which are those of empty listings. -/
theorem map_pair_account (rule : NamingRule) (l : Listings) :
    (l.account rule).map (fun t => (t.source, t.kind)) =
      (account geometryRule ⟨[], [], [], [], []⟩).map fun t => (t.source, t.kind) := rfl

/-- Every pair of a source and a kind has one tally in the account, and none is about lookups. -/
theorem pairs_account (rule : NamingRule) (l : Listings) :
    ((l.account rule).map fun t => (t.source, t.kind)).Nodup ∧
      ∀ t ∈ l.account rule, t.source ≠ Source.minor := by
  rw [← List.forall_mem_map (f := fun t : Tally => (t.source, t.kind))
    (P := fun pair => pair.1 ≠ Source.minor), map_pair_account]
  decide

end Listings

/-- The diagnostics of a snapshot account for the lines that have been read: every tally of the
account is shown, unless it is zero, and nothing else is shown but for lookups. -/
theorem collect_accounts {p : Provider} {rule : NamingRule} {timestamp : Int} {snapshot : Snapshot}
    (hok : (collect p rule timestamp).2 = .ok snapshot) :
    (∀ t ∈ (gather p timestamp).2.account rule,
        snapshot.counted t.source t.kind = shown t.count) ∧
      ∀ source kind, source ≠ Source.minor →
        (∀ t ∈ (gather p timestamp).2.account rule, ¬ (t.source = source ∧ t.kind = kind)) →
        snapshot.counted source kind = none := by
  generalize hlistings : (gather p timestamp).2 = l
  have hcounted : ∀ source kind, source ≠ Source.minor →
      snapshot.counted source kind = shown (tallied source kind (l.account rule)) := by
    intro source kind hne
    have hlookups : tallied source kind (lookupTallies (fun _ => false) (l.names rule)) = 0 :=
      tallied_eq_zero fun t ht heq => hne (by rw [← heq.1, List.mem_singleton.1 ht])
    rw [collect_counted hok hne, hlistings, (l.amounts_events rule _).recorded, tallied_append,
      hlookups, add_zero]
  obtain ⟨hnd, hsource⟩ := l.pairs_account rule
  refine ⟨fun t ht => ?_, fun source kind hne hnone => ?_⟩
  · rw [hcounted t.source t.kind (hsource t ht), tallied_of_mem hnd ht]
  · rw [hcounted source kind hne, tallied_eq_zero hnone, shown_zero]

/-- Lines that are skipped, defaulted and ignored, and a source without lines. -/
theorem collect_accounts_ada0 :
    let findings : Findings :=
      { devices := .ok ["ada0".toList]
        mounts := .ok ["/dev/ada0p1 on / (ufs)".toList, "tmpfs on /tmp".toList]
        counters := .ok ["ada0 1 2 3 nan 0 0".toList, "cd0 1 2 3 4 0 0 5".toList]
        diskGeometry := .error .noLines
        partitionGeometry := .ok
          ["lost".toList, "Geom name: cd0".toList, "1. Name: cd0p1".toList,
            "Geom name: ada0".toList, "1. Name: ada0p1".toList, "   Mediasize: big".toList,
            "   bare".toList]
        minor := fun _ => .ok none }
    ∃ snapshot, (collect (.ofFindings findings) geometryRule 7).2 = .ok snapshot ∧
      snapshot.counted Source.mounts EventKind.skipped = some 1 ∧
      snapshot.counted Source.counters EventKind.defaulted = some 2 ∧
      snapshot.counted Source.diskGeometry EventKind.unavailable = some 1 ∧
      snapshot.counted Source.diskGeometry EventKind.lines = none ∧
      snapshot.counted Source.partitionGeometry EventKind.ignored = some 2 ∧
      snapshot.counted Source.partitionGeometry EventKind.skipped = some 1 ∧
      snapshot.counted Source.partitionGeometry EventKind.defaulted = some 1 := by
  intro findings
  obtain ⟨snapshot, hok⟩ : ∃ snapshot,
      (collect (.ofFindings findings) geometryRule 7).2 = .ok snapshot := ⟨_, rfl⟩
  have haccount := (collect_accounts hok).1
  rw [listings_gather_ofFindings] at haccount
  exact ⟨snapshot, hok,
    haccount ⟨Source.mounts, EventKind.skipped, 1⟩ (by decide),
    haccount ⟨Source.counters, EventKind.defaulted, 2⟩ (by decide),
    haccount ⟨Source.diskGeometry, EventKind.unavailable, 1⟩ (by decide),
    haccount ⟨Source.diskGeometry, EventKind.lines, 0⟩ (by decide),
    haccount ⟨Source.partitionGeometry, EventKind.ignored, 2⟩ (by decide),
    haccount ⟨Source.partitionGeometry, EventKind.skipped, 1⟩ (by decide),
    haccount ⟨Source.partitionGeometry, EventKind.defaulted, 1⟩ (by decide)⟩

end StorageInventory
