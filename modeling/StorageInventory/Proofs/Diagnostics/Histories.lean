import Mathlib.Algebra.BigOperators.Group.Finset.Piecewise
import Mathlib.Tactic
import StorageInventory.Proofs.Diagnostics.Amounts

/-!
# Histories of diagnostics

While a source is read, diagnostics are asked for counts and reports between the events that they
record.  What they answer depends only on which events there were before: counts are sums over the
events, and the report lists the pairs that came up, in order, however the events were arranged.

* `after_eq_recordAll` — a history comes to the events that it records, since questions change
  nothing,
* `total_recordAll`, `sum_tallied` — the total of a kind is the sum of its counts over all sources,
* `shows_report_iff`, `ascending_report` — what a report lists, and in which order,
* `after_answers` — what is answered after a history.
-/

namespace StorageInventory

/-- What a tally contributes to a kind. -/
def Tally.towardKind (kind : Text) (t : Tally) : Int := if t.kind = kind then t.count else 0

namespace Diagnostics

/-! ## Calls -/

/-- A call of diagnostics. -/
inductive Call where
  | record (source kind : Text) (n : Int)
  | count (source kind : Text)
  | total (kind : Text)
  | report

/-- What a call answers. -/
inductive Reply where
  | recorded
  | number (n : Int)
  | listing (report : Table (Table Int))

/-- The answer to a call, and the diagnostics after it. -/
def respond : Call → Diagnostics → Reply × Diagnostics
  | .record source kind n, d => (.recorded, d.record source kind n)
  | .count source kind, d => (.number (d.count source kind), d)
  | .total kind, d => (.number (d.total kind), d)
  | .report, d => (.listing d.report, d)

/-- The diagnostics after some calls, made one after the other. -/
def after (calls : List Call) : Diagnostics :=
  calls.foldl (fun d call => (respond call d).2) {}

/-- The events that a call records. -/
def Call.events : Call → List Tally
  | .record source kind n => [⟨source, kind, n⟩]
  | .count .. | .total _ | .report => []

/-- The events that calls record, in order. -/
def eventsOf (calls : List Call) : List Tally := calls.flatMap Call.events

/-- A call records its events, whatever it answers. -/
theorem snd_respond (call : Call) (d : Diagnostics) :
    (respond call d).2 = recordAll call.events d := by
  cases call <;> rfl

/-- Only the events of a history matter to what it comes to. -/
theorem after_eq_recordAll (calls : List Call) : after calls = recordAll (eventsOf calls) {} := by
  rw [after, eventsOf]
  generalize ({} : Diagnostics) = d
  induction calls generalizing d with
  | nil => rfl
  | cons call calls ih =>
    rw [List.foldl_cons, ih, snd_respond, List.flatMap_cons, recordAll_append]

/-! ## Totals -/

/-- Counting along the tallies of a kind adds up what each gives toward it. -/
theorem foldl_filter_kind (kind : Text) (tallies : List Tally) (z : Int) :
    (tallies.filter fun t => t.kind = kind).foldl (fun n t => n + t.count) z =
      z + (tallies.map (Tally.towardKind kind)).sum := by
  induction tallies generalizing z with
  | nil => simp
  | cons t tallies ih =>
    rw [List.filter_cons, List.map_cons, List.sum_cons, Tally.towardKind]
    by_cases h : t.kind = kind
    · rw [if_pos (by simpa using h), if_pos h, List.foldl_cons, ih, add_assoc]
    · rw [if_neg (by simpa using h), if_neg h, ih, zero_add]

/-- The total of a kind is the sum over all tallies. -/
theorem total_eq (d : Diagnostics) (kind : Text) :
    d.total kind = (d.tallies.map (Tally.towardKind kind)).sum := by
  rw [total, foldl_filter_kind, zero_add]

/-- An event adds to the total of its kind. -/
theorem total_record (d : Diagnostics) (source kind kind' : Text) (n : Int) :
    (d.record source kind n).total kind' =
      d.total kind' + Tally.towardKind kind' ⟨source, kind, n⟩ := by
  rw [total_eq, total_eq, Diagnostics.record]
  dsimp only
  induction d.tallies with
  | nil => simp [addTo]
  | cons t rest ih =>
    rw [addTo]
    split
    · next h =>
      obtain ⟨-, rfl⟩ := h
      simp only [List.map_cons, List.sum_cons, Tally.towardKind]
      split <;> omega
    · rw [List.map_cons, List.map_cons, List.sum_cons, List.sum_cons, ih, add_assoc]

/-- Recording adds what the events give toward a kind to its total. -/
theorem total_recordAll (events : List Tally) (d : Diagnostics) (kind : Text) :
    (recordAll events d).total kind =
      d.total kind + (events.map (Tally.towardKind kind)).sum := by
  induction events generalizing d with
  | nil => simp
  | cons e events ih => rw [recordAll_cons, ih, total_record, List.map_cons, List.sum_cons,
    add_assoc]

/-- Over all sources, the counts of a kind add up to its total. -/
theorem sum_tallied {events : List Tally} {sources : Finset Text}
    (h : ∀ e ∈ events, e.source ∈ sources) (kind : Text) :
    ∑ source ∈ sources, tallied source kind events =
      (events.map (Tally.towardKind kind)).sum := by
  induction events with
  | nil => simp
  | cons e events ih =>
    rw [List.forall_mem_cons] at h
    have hsource : ∑ source ∈ sources, e.toward source kind = e.towardKind kind := by
      simp only [Tally.toward, Tally.towardKind, ite_and]
      rw [Finset.sum_ite_eq, if_pos h.1]
    simp only [tallied_cons]
    rw [Finset.sum_add_distrib, hsource, ih h.2, List.map_cons, List.sum_cons]

/-! ## Reports -/

/-- A report shows a count for a source and a kind. -/
def Shows (report : Table (Table Int)) (source kind : Text) (n : Int) : Prop :=
  ∃ kinds, (source, kinds) ∈ report ∧ (kind, n) ∈ kinds

/-- The sources of a report, each of which has some kind, and the kinds of each stand in strictly
increasing order of code points. -/
structure Ascending (report : Table (Table Int)) : Prop where
  sources : report.keys.Pairwise (· < ·)
  kinds : ∀ entry ∈ report, entry.2 ≠ [] ∧ (Table.keys entry.2).Pairwise (· < ·)

/-- The sources are those of the tallies. -/
theorem mem_sources_iff {d : Diagnostics} {source : Text} :
    source ∈ d.sources ↔ ∃ t ∈ d.tallies, t.source = source := by
  rw [sources, mem_sortBy, List.mem_eraseDups, List.mem_map]

/-- The report has one entry for each source, with its kinds. -/
theorem mem_report_iff {d : Diagnostics} {source : Text} {kinds : Table Int} :
    (source, kinds) ∈ d.report ↔ source ∈ d.sources ∧ kinds = d.kinds source := by
  rw [report, List.mem_map]
  constructor
  · rintro ⟨_, hmem, heq⟩
    obtain ⟨rfl, rfl⟩ := Prod.mk.inj heq
    exact ⟨hmem, rfl⟩
  · rintro ⟨hmem, rfl⟩
    exact ⟨source, hmem, rfl⟩

/-- A report shows the tallies. -/
theorem shows_report_iff {d : Diagnostics} {source kind : Text} {n : Int} :
    Shows d.report source kind n ↔ ⟨source, kind, n⟩ ∈ d.tallies := by
  rw [← mem_kinds_iff]
  constructor
  · rintro ⟨kinds, hkinds, hmem⟩
    obtain ⟨-, rfl⟩ := mem_report_iff.1 hkinds
    exact hmem
  · intro hmem
    have hsource : source ∈ d.sources := mem_sources_iff.2 ⟨_, mem_kinds_iff.1 hmem, rfl⟩
    exact ⟨d.kinds source, mem_report_iff.2 ⟨hsource, rfl⟩, hmem⟩

/-- The report of diagnostics with one tally for each pair is in strictly ascending order. -/
theorem ascending_report {d : Diagnostics} (h : d.Distinct) : Ascending d.report where
  sources := by
    have hsources : Table.keys d.report = d.sources := by
      rw [report, Table.keys, List.map_map]
      exact List.map_id d.sources
    have hsorted := pairwise_lt_sortBy_key id
      (by simpa using nodup_eraseDups (d.tallies.map Tally.source))
    rw [List.map_id] at hsorted
    rw [hsources]
    exact hsorted
  kinds := by
    rintro ⟨source, kinds⟩ hentry
    obtain ⟨hsource, rfl⟩ := mem_report_iff.1 hentry
    obtain ⟨t, ht, rfl⟩ := mem_sources_iff.1 hsource
    exact ⟨List.ne_nil_of_mem (mem_kinds_iff.2 ht),
      pairwise_lt_sortBy_key Prod.fst (h.nodup_kinds t.source)⟩

/-! ## Histories -/

/-- After any calls, every pair has one tally. -/
theorem distinct_after (calls : List Call) : (after calls).Distinct := by
  rw [after_eq_recordAll]
  exact distinct_empty.recordAll

/-- After any calls, the count of a pair is the sum of its events. -/
theorem count_after (calls : List Call) (source kind : Text) :
    (after calls).count source kind = tallied source kind (eventsOf calls) := by
  have hcount : Diagnostics.count {} source kind = 0 := rfl
  rw [after_eq_recordAll, count_recordAll, hcount, zero_add]

/-- After a history, the total of a kind is the sum of its counts over all sources that came up. -/
theorem total_after {calls : List Call} {sources : Finset Text}
    (h : ∀ e ∈ eventsOf calls, e.source ∈ sources) (kind : Text) :
    (after calls).total kind = ∑ source ∈ sources, (after calls).count source kind := by
  have hzero : Diagnostics.total {} kind = 0 := rfl
  simp only [count_after]
  rw [sum_tallied h, after_eq_recordAll, total_recordAll, hzero, zero_add]

/-- After a history, the report shows the pairs that came up, with their counts. -/
theorem shows_report_after {calls : List Call} {source kind : Text} {n : Int} :
    Shows (after calls).report source kind n ↔
      (∃ e ∈ eventsOf calls, e.source = source ∧ e.kind = kind) ∧
        n = (after calls).count source kind := by
  have hpair : (∃ e ∈ eventsOf calls, e.source = source ∧ e.kind = kind) ↔
      eventsFor source kind (eventsOf calls) ≠ [] := by
    simp [eventsFor]
  rw [shows_report_iff, (distinct_after calls).mem_iff, hpair, count_after, ← sum_eventsFor,
    after_eq_recordAll, recorded_recordAll]
  have hnone : Diagnostics.recorded {} source kind = none := rfl
  have hcount : Diagnostics.count {} source kind = 0 := rfl
  rw [hnone, hcount, zero_add]
  by_cases hevents : eventsFor source kind (eventsOf calls) = []
  · simp [hevents]
  · simp [hevents, eq_comm]

/-- The report depends on the events alone, in whichever order they were recorded. -/
theorem report_after_of_perm {calls calls' : List Call}
    (h : (eventsOf calls').Perm (eventsOf calls)) :
    (after calls').report = (after calls).report := by
  refine report_congr (distinct_after calls') (distinct_after calls) fun source kind => ?_
  rw [after_eq_recordAll, after_eq_recordAll, recorded_recordAll_perm h]

/-- What is answered after any history.  A count is the sum of its events, and a total that of the
counts over all sources.  The report shows every pair that came up and no other, in ascending order,
and does so after every history with the same events in another order.  No question changes the
diagnostics, and those that were asked before make no difference. -/
theorem after_answers (calls : List Call) :
    let events := eventsOf calls
    let d := after calls
    (∀ source kind, respond (.count source kind) d =
      (.number ((eventsFor source kind events).map Tally.count).sum, d)) ∧
    (∀ kind (sources : Finset Text), (∀ e ∈ events, e.source ∈ sources) →
      respond (.total kind) d = (.number (∑ source ∈ sources, d.count source kind), d)) ∧
    (∃ report, respond .report d = (.listing report, d) ∧ Ascending report ∧
      (∀ source kind n, Shows report source kind n ↔
        (∃ e ∈ events, e.source = source ∧ e.kind = kind) ∧ n = d.count source kind) ∧
      ∀ calls', (eventsOf calls').Perm events →
        (respond .report (after calls')).1 = .listing report) ∧
    ∀ calls', eventsOf calls' = events → after calls' = d := by
  intro events d
  refine ⟨fun source kind => ?_, fun kind sources hsources => ?_, ⟨d.report, rfl, ?_, ?_, ?_⟩, ?_⟩
  · rw [respond, count_after, sum_eventsFor]
  · rw [respond, total_after hsources]
  · exact ascending_report (distinct_after calls)
  · exact fun source kind n => shows_report_after
  · exact fun calls' hperm => congrArg Reply.listing (report_after_of_perm hperm)
  · intro calls' hevents
    rw [after_eq_recordAll, hevents, ← after_eq_recordAll]

/-- Counts that add up to zero are listed. -/
example : (after [.record ['m'] ['s'] 2, .count ['x'] ['s'], .record ['i'] ['l'] 0, .total ['s'],
    .record ['m'] ['s'] (-2), .record ['m'] ['l'] 1]).report =
      [(['i'], [(['l'], 0)]), (['m'], [(['l'], 1), (['s'], 0)])] := by decide

end Diagnostics

end StorageInventory
