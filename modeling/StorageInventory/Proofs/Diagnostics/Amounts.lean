import Mathlib.Tactic
import StorageInventory.Proofs.Diagnostics.Recording
import StorageInventory.Proofs.Store.Edits

/-!
# What events amount to

Events add up pair by pair, so however many there are, they amount to a few tallies, one for every
pair that can come up.  A tally of zero stands for events that did not occur, and leaves no trace.

* `Amounts` — some events amount to some tallies,
* `Amounts.recorded` — what is then recorded are the tallies that are not zero,
* `reported_report` — what is recorded can be read off the report.
-/

namespace StorageInventory

/-- What a tally contributes to a pair. -/
def Tally.toward (source kind : Text) (t : Tally) : Int :=
  if t.source = source ∧ t.kind = kind then t.count else 0

namespace Diagnostics

/-! ## Adding up -/

/-- The count that tallies add up to for a pair. -/
def tallied (source kind : Text) (tallies : List Tally) : Int :=
  (tallies.map (Tally.toward source kind)).sum

/-- No tallies add up to nothing. -/
@[simp] theorem tallied_nil (source kind : Text) : tallied source kind [] = 0 := rfl

/-- The first tally adds what it gives toward the pair. -/
@[simp] theorem tallied_cons (source kind : Text) (t : Tally) (tallies : List Tally) :
    tallied source kind (t :: tallies) = t.toward source kind + tallied source kind tallies := by
  rw [tallied, List.map_cons, List.sum_cons, tallied]

/-- The tallies of two lists add up to the sum of both. -/
theorem tallied_append (source kind : Text) (a b : List Tally) :
    tallied source kind (a ++ b) = tallied source kind a + tallied source kind b := by
  rw [tallied, List.map_append, List.sum_append, tallied, tallied]

/-- A tally gives toward a pair what the parts of its count give. -/
theorem toward_add (source kind s k : Text) (m n : Int) :
    Tally.toward source kind ⟨s, k, m + n⟩ =
      Tally.toward source kind ⟨s, k, m⟩ + Tally.toward source kind ⟨s, k, n⟩ := by
  simp only [Tally.toward]
  split <;> simp

/-- A tally of nothing gives nothing toward any pair. -/
@[simp] theorem toward_zero (source kind s k : Text) : Tally.toward source kind ⟨s, k, 0⟩ = 0 := by
  simp [Tally.toward]

/-- The events of a pair add up to what all events give toward it. -/
theorem sum_eventsFor (source kind : Text) (events : List Tally) :
    ((eventsFor source kind events).map Tally.count).sum = tallied source kind events := by
  induction events with
  | nil => rfl
  | cons e events ih =>
    rw [eventsFor_cons, tallied_cons, Tally.toward]
    split
    · rw [List.map_cons, List.sum_cons, ih]
    · rw [ih, zero_add]

/-- Events are added to the counts. -/
theorem count_recordAll (events : List Tally) (d : Diagnostics) (source kind : Text) :
    (recordAll events d).count source kind =
      d.count source kind + tallied source kind events := by
  rw [count_eq, recorded_recordAll, ← sum_eventsFor]
  split
  · next h => rw [h, List.map_nil, List.sum_nil, add_zero, count_eq]
  · rfl

/-- Tallies of other pairs add up to nothing. -/
theorem tallied_eq_zero {source kind : Text} {tallies : List Tally}
    (h : ∀ t ∈ tallies, ¬ (t.source = source ∧ t.kind = kind)) :
    tallied source kind tallies = 0 := by
  rw [tallied, List.sum_eq_zero]
  intro n hn
  obtain ⟨t, ht, rfl⟩ := List.mem_map.1 hn
  exact if_neg (h t ht)

/-- Where every pair has one tally, its count is the sum. -/
theorem tallied_of_mem {tallies : List Tally}
    (hnd : (tallies.map fun t => (t.source, t.kind)).Nodup) {t : Tally} (ht : t ∈ tallies) :
    tallied t.source t.kind tallies = t.count := by
  induction tallies with
  | nil => simp at ht
  | cons u tallies ih =>
    rw [List.map_cons, List.nodup_cons] at hnd
    rw [tallied_cons]
    rcases List.mem_cons.1 ht with rfl | ht
    · have hothers : ∀ v ∈ tallies, ¬ (v.source = t.source ∧ v.kind = t.kind) := fun v hv heq =>
        hnd.1 (List.mem_map.2 ⟨v, hv, Prod.ext heq.1 heq.2⟩)
      rw [tallied_eq_zero hothers, add_zero, Tally.toward, if_pos ⟨rfl, rfl⟩]
    · have hother : ¬ (u.source = t.source ∧ u.kind = t.kind) := fun heq =>
        hnd.1 (List.mem_map.2 ⟨t, ht, Prod.ext heq.1.symm heq.2.symm⟩)
      rw [ih hnd.2 ht, Tally.toward, if_neg hother, zero_add]

/-! ## Events -/

/-- The events, each of which counts something, add up to the same as the tallies. -/
structure Amounts (events tallies : List Tally) : Prop where
  pos : ∀ e ∈ events, 0 < e.count
  sum : ∀ source kind, tallied source kind events = tallied source kind tallies

theorem Amounts.nil : Amounts [] [] := ⟨by simp, fun _ _ => rfl⟩

/-- An event that counts something amounts to the tally that it is. -/
theorem Amounts.cons {events tallies : List Tally} {e : Tally} (hpos : 0 < e.count)
    (h : Amounts events tallies) : Amounts (e :: events) (e :: tallies) where
  pos := List.forall_mem_cons.2 ⟨hpos, h.pos⟩
  sum source kind := by rw [tallied_cons, tallied_cons, h.sum]

/-- Two lists of events, one after the other, amount to their tallies in the same order. -/
theorem Amounts.append {events events' tallies tallies' : List Tally} (h : Amounts events tallies)
    (h' : Amounts events' tallies') : Amounts (events ++ events') (tallies ++ tallies') where
  pos := List.forall_mem_append.2 ⟨h.pos, h'.pos⟩
  sum source kind := by rw [tallied_append, tallied_append, h.sum, h'.sum]

/-- Only the sums of the tallies matter. -/
theorem Amounts.congr {events tallies tallies' : List Tally} (h : Amounts events tallies)
    (heq : ∀ source kind, tallied source kind tallies = tallied source kind tallies') :
    Amounts events tallies' :=
  ⟨h.pos, fun source kind => (h.sum source kind).trans (heq source kind)⟩

/-- The order of the events does not matter. -/
theorem Amounts.perm {events events' tallies : List Tally} (h : Amounts events tallies)
    (hperm : events.Perm events') : Amounts events' tallies where
  pos e he := h.pos e (hperm.mem_iff.2 he)
  sum source kind := by rw [← h.sum, tallied, tallied, (hperm.map _).sum_eq]

/-- What is recorded for a number of events: the number, but nothing if there are none. -/
def shown (n : Int) : Option Int := if n = 0 then none else some n

/-- Nothing is shown of a sum of zero. -/
@[simp] theorem shown_zero : shown 0 = none := rfl

/-- Of events that amount to some tallies, the tallies are recorded that are not zero. -/
theorem Amounts.recorded {events tallies : List Tally} (h : Amounts events tallies)
    (source kind : Text) :
    (recordAll events {}).recorded source kind = shown (tallied source kind tallies) := by
  rw [recorded_recordAll, ← h.sum, ← sum_eventsFor]
  by_cases hnone : eventsFor source kind events = []
  · rw [if_pos hnone, hnone]
    rfl
  · have hpos : 0 < ((eventsFor source kind events).map Tally.count).sum := by
      refine List.sum_pos _ (fun n hn => ?_) (by simpa using hnone)
      obtain ⟨e, he, rfl⟩ := List.mem_map.1 hn
      exact h.pos e (List.mem_filter.1 he).1
    have hcount : Diagnostics.count {} source kind = 0 := rfl
    rw [if_neg hnone, hcount, zero_add, shown, if_neg hpos.ne']

/-! ## Reports -/

/-- The count that a report shows for a pair, if it shows one. -/
def reported (report : Table (Table Int)) (source kind : Text) : Option Int :=
  (report.get? source).bind (·.get? kind)

/-- The kinds of a source are those of its tallies. -/
theorem mem_kinds_iff {d : Diagnostics} {source kind : Text} {n : Int} :
    (kind, n) ∈ d.kinds source ↔ ⟨source, kind, n⟩ ∈ d.tallies := by
  rw [kinds, mem_sortBy, List.mem_map]
  constructor
  · rintro ⟨t, ht, heq⟩
    obtain ⟨hmem, hsource⟩ := List.mem_filter.1 ht
    obtain ⟨rfl, rfl⟩ := Prod.mk.inj heq
    obtain rfl : t.source = source := by simpa using hsource
    exact hmem
  · intro ht
    exact ⟨_, List.mem_filter.2 ⟨ht, by simp⟩, rfl⟩

/-- The report shows what is recorded. -/
theorem reported_report {d : Diagnostics} (h : d.Distinct) (source kind : Text) :
    reported d.report source kind = d.recorded source kind := by
  have hsources : (Table.keys d.report).Nodup := by
    rw [report, Table.keys, List.map_map]
    exact ((perm_sortBy _ _).nodup_iff.2 (nodup_eraseDups _)).map fun _ _ heq => heq
  have hkinds : (Table.keys (d.kinds source)).Nodup :=
    ((perm_sortBy _ _).map Prod.fst).nodup_iff.2 (h.nodup_kinds source)
  refine Option.ext fun n => ?_
  rw [reported, Option.bind_eq_some_iff, ← (h.mem_iff ⟨source, kind, n⟩ : _)]
  constructor
  · rintro ⟨shownKinds, hget, hkind⟩
    obtain ⟨_, -, heq⟩ := List.mem_map.1 (Table.mem_of_get? hget)
    obtain ⟨rfl, rfl⟩ := Prod.mk.inj heq
    exact mem_kinds_iff.1 (Table.mem_of_get? hkind)
  · intro ht
    have hmem : source ∈ d.sources := by
      rw [sources, mem_sortBy, List.mem_eraseDups]
      exact List.mem_map.2 ⟨_, ht, rfl⟩
    exact ⟨d.kinds source, Table.get?_of_mem hsources (List.mem_map_of_mem hmem),
      Table.get?_of_mem hkinds (mem_kinds_iff.2 ht)⟩

end Diagnostics

end StorageInventory
