import Mathlib.Tactic
import StorageInventory.Diagnostics
import StorageInventory.Proofs.Name.Order

/-!
# What diagnostics record

Diagnostics answer for every pair of a source and a kind with the count recorded for it, if one was
recorded.  An event adds to the count of its pair, so the answers after many events depend on which
events there were, and not on their order.

* `recorded_recordAll` — the answers after some events,
* `recorded_recordAll_perm` — events can be recorded in any order,
* `report_congr` — the report shows the answers, and nothing of the order in which pairs came up.

Every pair has one tally (`Distinct`): diagnostics start without any, and recording keeps it so.
-/

namespace StorageInventory

/-! ## Sorting by a text -/

/-- Sorted records stand in the order of their texts. -/
theorem pairwise_le_sortBy_key {α : Type} (key : α → Text) (xs : List α) :
    (sortBy (fun a b => Text.le (key a) (key b)) xs).Pairwise fun a b => key a ≤ key b := by
  have htotal : ∀ a b : α, Text.le (key a) (key b) = true ∨ Text.le (key b) (key a) = true := by
    intro a b
    rw [Text.le_iff, Text.le_iff]
    exact LinearOrder.le_total _ _
  have htrans : ∀ a b c : α, Text.le (key a) (key b) = true → Text.le (key b) (key c) = true →
      Text.le (key a) (key c) = true := by
    intro a b c hab hbc
    rw [Text.le_iff] at hab hbc ⊢
    exact hab.trans hbc
  exact (pairwise_sortBy htotal htrans xs).imp fun h => Text.le_iff.1 h

/-- If the texts are distinct, they stand in strictly increasing order. -/
theorem pairwise_lt_sortBy_key {α : Type} (key : α → Text) {xs : List α}
    (hnd : (xs.map key).Nodup) :
    ((sortBy (fun a b => Text.le (key a) (key b)) xs).map key).Pairwise (· < ·) := by
  have hsorted := ((perm_sortBy (fun a b => Text.le (key a) (key b)) xs).map key).nodup_iff.2 hnd
  have hle := List.pairwise_map.2 (pairwise_le_sortBy_key key xs)
  exact (hle.and hsorted).imp fun h => lt_of_le_of_ne h.1 h.2

/-- Records with distinct texts are sorted by them in one way only. -/
theorem sortBy_key_eq_of_perm {α : Type} (key : α → Text) {xs ys : List α}
    (hnd : (xs.map key).Nodup) (h : xs.Perm ys) :
    sortBy (fun a b => Text.le (key a) (key b)) xs =
      sortBy (fun a b => Text.le (key a) (key b)) ys := by
  have hperm : (sortBy (fun a b => Text.le (key a) (key b)) xs).Perm
      (sortBy (fun a b => Text.le (key a) (key b)) ys) :=
    (perm_sortBy _ xs).trans (h.trans (perm_sortBy _ ys).symm)
  refine hperm.eq_of_pairwise ?_ (pairwise_le_sortBy_key key xs) (pairwise_le_sortBy_key key ys)
  intro a b ha hb hab hba
  -- two records that stand on either side of each other have one text
  have hmem : b ∈ xs := h.mem_iff.2 (mem_sortBy.1 hb)
  exact List.inj_on_of_nodup_map hnd (mem_sortBy.1 ha) hmem (hab.antisymm hba)

/-- A list without its repetitions repeats nothing. -/
theorem nodup_eraseDups : ∀ xs : List Text, xs.eraseDups.Nodup
  | [] => by simp
  | x :: xs => by
    rw [List.eraseDups_cons, List.nodup_cons, List.mem_eraseDups]
    exact ⟨by simp, nodup_eraseDups _⟩
  termination_by xs => xs.length
  decreasing_by exact Nat.lt_succ_of_le (List.length_filter_le _ _)

namespace Diagnostics

/-! ## One pair -/

/-- The count recorded for a pair, if one was. -/
def recorded (d : Diagnostics) (source kind : Text) : Option Int :=
  (d.tallies.find? fun t => t.source = source ∧ t.kind = kind).map Tally.count

/-- A count is what is recorded, or zero. -/
theorem count_eq (d : Diagnostics) (source kind : Text) :
    d.count source kind = (d.recorded source kind).getD 0 := rfl

/-- Adding to a pair raises its count, which was zero if there was none. -/
theorem find?_addTo_self (source kind : Text) (n : Int) (tallies : List Tally) :
    ((addTo source kind n tallies).find? fun t => t.source = source ∧ t.kind = kind).map
        Tally.count =
      some (((tallies.find? fun t => t.source = source ∧ t.kind = kind).map
        Tally.count).getD 0 + n) := by
  induction tallies with
  | nil => simp [addTo]
  | cons t rest ih =>
    rw [addTo]
    split
    · next h => simp [h]
    · next h =>
      rw [List.find?_cons_of_neg (by simpa using h), List.find?_cons_of_neg (by simpa using h), ih]

/-- Adding to a pair leaves the count of every other pair. -/
theorem find?_addTo_of_ne {source kind source' kind' : Text}
    (hne : ¬ (source = source' ∧ kind = kind')) (n : Int) (tallies : List Tally) :
    ((addTo source kind n tallies).find? fun t => t.source = source' ∧ t.kind = kind').map
        Tally.count =
      (tallies.find? fun t => t.source = source' ∧ t.kind = kind').map Tally.count := by
  induction tallies with
  | nil => simp [addTo, hne]
  | cons t rest ih =>
    rw [addTo]
    split
    · next h =>
      -- the tally that is added to is not the one that is asked for
      obtain ⟨rfl, rfl⟩ := h
      simp [hne]
    · by_cases h' : t.source = source' ∧ t.kind = kind'
      · simp [h']
      · rw [List.find?_cons_of_neg (by simpa using h'), List.find?_cons_of_neg (by simpa using h'),
          ih]

/-- To record adds to the count of the pair, and to no other. -/
theorem recorded_record (d : Diagnostics) (source kind source' kind' : Text) (n : Int) :
    (d.record source kind n).recorded source' kind' =
      if source = source' ∧ kind = kind' then some (d.count source' kind' + n)
      else d.recorded source' kind' := by
  split
  · next h =>
    obtain ⟨rfl, rfl⟩ := h
    exact find?_addTo_self source kind n d.tallies
  · next h => exact find?_addTo_of_ne h n d.tallies

/-! ## Many events -/

/-- Record some events, in order. -/
def recordAll (events : List Tally) (d : Diagnostics) : Diagnostics :=
  events.foldl (fun d e => d.record e.source e.kind e.count) d

@[simp] theorem recordAll_nil (d : Diagnostics) : recordAll [] d = d := rfl

/-- Events are recorded from the first one on. -/
@[simp] theorem recordAll_cons (e : Tally) (events : List Tally) (d : Diagnostics) :
    recordAll (e :: events) d = recordAll events (d.record e.source e.kind e.count) := rfl

/-- Two lists of events are recorded one after the other. -/
theorem recordAll_append (a b : List Tally) (d : Diagnostics) :
    recordAll (a ++ b) d = recordAll b (recordAll a d) := by
  simp [recordAll]

/-- The events of a pair. -/
def eventsFor (source kind : Text) (events : List Tally) : List Tally :=
  events.filter fun e => e.source = source ∧ e.kind = kind

/-- The first event belongs to its own pair only. -/
theorem eventsFor_cons (source kind : Text) (e : Tally) (events : List Tally) :
    eventsFor source kind (e :: events) =
      if e.source = source ∧ e.kind = kind then e :: eventsFor source kind events
      else eventsFor source kind events := by
  simp only [eventsFor, List.filter_cons, decide_eq_true_eq]

/-- The count of a pair grows by its events, and is recorded if there are any. -/
theorem recorded_recordAll (events : List Tally) (d : Diagnostics) (source kind : Text) :
    (recordAll events d).recorded source kind =
      if eventsFor source kind events = [] then d.recorded source kind
      else some (d.count source kind + ((eventsFor source kind events).map Tally.count).sum) := by
  induction events generalizing d with
  | nil => rfl
  | cons e events ih =>
    rw [recordAll_cons, ih, count_eq, recorded_record, eventsFor_cons]
    by_cases h : e.source = source ∧ e.kind = kind
    · -- the event is counted first, whether or not others of its pair follow
      rw [if_pos h, if_pos h, if_neg (List.cons_ne_nil _ _), List.map_cons, List.sum_cons,
        Option.getD_some, add_assoc]
      split
      · next hnone => rw [hnone, List.map_nil, List.sum_nil, add_zero]
      · rfl
    · rw [if_neg h, if_neg h, ← count_eq]

/-- Events can be recorded in any order. -/
theorem recorded_recordAll_perm {events events' : List Tally} (h : events.Perm events')
    (d : Diagnostics) (source kind : Text) :
    (recordAll events d).recorded source kind = (recordAll events' d).recorded source kind := by
  have hfor : (eventsFor source kind events).Perm (eventsFor source kind events') := h.filter _
  have hnil : eventsFor source kind events = [] ↔ eventsFor source kind events' = [] :=
    ⟨fun h => (h ▸ hfor).nil_eq.symm, fun h => (h ▸ hfor).eq_nil⟩
  rw [recorded_recordAll, recorded_recordAll, (hfor.map Tally.count).sum_eq]
  simp only [hnil]

/-! ## One tally for every pair -/

/-- Every pair has one tally. -/
def Distinct (d : Diagnostics) : Prop := (d.tallies.map fun t => (t.source, t.kind)).Nodup

/-- Diagnostics without tallies have none twice. -/
theorem distinct_empty : Distinct {} := List.nodup_nil

/-- Adding to a pair appends it, unless it is there. -/
theorem map_pair_addTo (source kind : Text) (n : Int) (tallies : List Tally) :
    (addTo source kind n tallies).map (fun t => (t.source, t.kind)) =
      if (source, kind) ∈ tallies.map (fun t => (t.source, t.kind)) then
        tallies.map fun t => (t.source, t.kind)
      else tallies.map (fun t => (t.source, t.kind)) ++ [(source, kind)] := by
  induction tallies with
  | nil => rfl
  | cons t rest ih =>
    rw [addTo]
    by_cases h : t.source = source ∧ t.kind = kind
    · rw [if_pos h, if_pos (by simp [h])]
      rfl
    · have hne : (source, kind) ≠ (t.source, t.kind) :=
        fun heq => h ⟨(Prod.mk.inj heq).1.symm, (Prod.mk.inj heq).2.symm⟩
      rw [if_neg h, List.map_cons, ih, List.map_cons]
      simp only [List.mem_cons, hne, false_or]
      split <;> rfl

/-- Recording neither makes nor unmakes a pair with two tallies. -/
theorem distinct_record_iff {d : Diagnostics} {source kind : Text} {n : Int} :
    (d.record source kind n).Distinct ↔ d.Distinct := by
  rw [Distinct, Diagnostics.record, map_pair_addTo]
  split
  · rfl
  · next hnew =>
    refine ⟨fun h => (List.nodup_append.1 h).1, fun h => ?_⟩
    exact List.nodup_append.2 ⟨h, by simp, by aesop⟩

/-- Recording keeps one tally for every pair. -/
theorem Distinct.record {d : Diagnostics} (h : d.Distinct) (source kind : Text) (n : Int) :
    (d.record source kind n).Distinct := distinct_record_iff.2 h

/-- Recording any number of events keeps one tally for every pair. -/
theorem Distinct.recordAll {events : List Tally} {d : Diagnostics} (h : d.Distinct) :
    (recordAll events d).Distinct := by
  induction events generalizing d with
  | nil => exact h
  | cons e events ih => exact ih (h.record e.source e.kind e.count)

/-- A tally is there exactly if its count is recorded. -/
theorem Distinct.mem_iff {d : Diagnostics} (h : d.Distinct) (t : Tally) :
    t ∈ d.tallies ↔ d.recorded t.source t.kind = some t.count := by
  rw [recorded, Option.map_eq_some_iff]
  constructor
  · intro ht
    cases hfind : d.tallies.find? fun t' => t'.source = t.source ∧ t'.kind = t.kind with
    | none => exact absurd (List.find?_eq_none.1 hfind t ht) (by simp)
    | some t' =>
      -- the tally that is found is the only one of its pair
      have hpair : t'.source = t.source ∧ t'.kind = t.kind := by
        simpa using List.find?_some hfind
      have hmem := List.mem_of_find?_eq_some hfind
      rw [List.inj_on_of_nodup_map h hmem ht (Prod.ext hpair.1 hpair.2)]
      exact ⟨t, rfl, rfl⟩
  · rintro ⟨t', hfind, hcount⟩
    have hpair : t'.source = t.source ∧ t'.kind = t.kind := by
      simpa using List.find?_some hfind
    have heq : t' = t := by
      cases t'
      cases t
      simp_all
    exact heq ▸ List.mem_of_find?_eq_some hfind

/-- Diagnostics with the same answers have the same tallies. -/
theorem Distinct.perm {d e : Diagnostics} (hd : d.Distinct) (he : e.Distinct)
    (h : ∀ source kind, d.recorded source kind = e.recorded source kind) :
    d.tallies.Perm e.tallies := by
  rw [List.perm_ext_iff_of_nodup (hd.of_map _) (he.of_map _)]
  intro t
  rw [hd.mem_iff, he.mem_iff, h]

/-! ## Agreement -/

/-- A relation of diagnostics that holds on when both record the same. -/
structure Congruence (R : Diagnostics → Diagnostics → Prop) : Prop where
  refl : ∀ d, R d d
  trans : ∀ {d e f}, R d e → R e f → R d f
  record : ∀ {d e}, R d e → ∀ source kind n, R (d.record source kind n) (e.record source kind n)

/-- Equal diagnostics stay equal when both record the same. -/
theorem congruence_eq : Congruence Eq := ⟨fun _ => rfl, Eq.trans, fun h _ _ _ => h ▸ rfl⟩

/-- What one record preserves is preserved by any number of them. -/
theorem Congruence.recordAll {R : Diagnostics → Diagnostics → Prop} (hR : Congruence R)
    {d e : Diagnostics} (h : R d e) (events : List Tally) :
    R (recordAll events d) (recordAll events e) := by
  induction events generalizing d e with
  | nil => exact h
  | cons t events ih => exact ih (hR.record h t.source t.kind t.count)

/-- The diagnostics answer alike for all sources but one. -/
structure AgreeOff (source : Text) (d e : Diagnostics) : Prop where
  distinct : e.Distinct → d.Distinct
  recorded : ∀ other, other ≠ source → ∀ kind, d.recorded other kind = e.recorded other kind

/-- Agreement off a source is kept when both record the same. -/
theorem congruence_agreeOff (source : Text) : Congruence (AgreeOff source) where
  refl d := ⟨id, fun _ _ _ => rfl⟩
  trans h h' := ⟨h.distinct ∘ h'.distinct, fun other hne kind =>
    (h.recorded other hne kind).trans (h'.recorded other hne kind)⟩
  record h s k n := by
    refine ⟨fun he => distinct_record_iff.2 (h.distinct (distinct_record_iff.1 he)), ?_⟩
    intro other hne kind
    rw [recorded_record, recorded_record, count_eq, count_eq, h.recorded other hne kind]

/-- What is recorded for a source is off the others. -/
theorem agreeOff_record (d : Diagnostics) (source kind : Text) (n : Int) :
    AgreeOff source (d.record source kind n) d := by
  refine ⟨fun h => h.record source kind n, fun other hne k => ?_⟩
  rw [recorded_record, if_neg fun heq => hne heq.1.symm]

/-! ## The report -/

/-- The kinds of a source have one count each. -/
theorem Distinct.nodup_kinds {d : Diagnostics} (h : d.Distinct) (source : Text) :
    (((d.tallies.filter fun t => t.source = source).map fun t => (t.kind, t.count)).map
      Prod.fst).Nodup := by
  rw [List.map_map, List.nodup_map_iff_inj_on ((h.of_map _).filter _)]
  intro t ht t' ht' hkind
  have hsource : t.source = t'.source := by
    rw [of_decide_eq_true (List.mem_filter.1 ht).2, of_decide_eq_true (List.mem_filter.1 ht').2]
  exact List.inj_on_of_nodup_map h (List.mem_filter.1 ht).1 (List.mem_filter.1 ht').1
    (Prod.ext hsource hkind)

/-- The report depends on the answers alone. -/
theorem report_congr {d e : Diagnostics} (hd : d.Distinct) (he : e.Distinct)
    (h : ∀ source kind, d.recorded source kind = e.recorded source kind) : d.report = e.report := by
  have hperm := hd.perm he h
  have hsources : d.sources = e.sources := by
    refine sortBy_key_eq_of_perm id (by simpa using nodup_eraseDups _) ?_
    rw [List.perm_ext_iff_of_nodup (nodup_eraseDups _) (nodup_eraseDups _)]
    intro source
    rw [List.mem_eraseDups, List.mem_eraseDups, (hperm.map Tally.source).mem_iff]
  have hkinds : ∀ source, d.kinds source = e.kinds source := fun source =>
    sortBy_key_eq_of_perm Prod.fst (hd.nodup_kinds source) ((hperm.filter _).map _)
  rw [report, report, hsources]
  exact List.map_congr_left fun source _ => by rw [hkinds]

end Diagnostics

end StorageInventory
