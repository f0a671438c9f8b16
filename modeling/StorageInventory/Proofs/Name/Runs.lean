import Mathlib.Data.List.Chain
import Mathlib.Tactic
import StorageInventory.Name.NaturalKey
import StorageInventory.Proofs.Outcome

/-!
# Runs of digits and the names that have a key

A name is cut into maximal runs of decimal digits and the runs between them.  `IsRun` says what such
a run is without reference to how the name is cut, and `Sortable` says by it which names have a key.

* `mem_runs_iff` — the cut finds exactly the maximal runs,
* `ofName_isOk_iff` — a name has a key exactly if it is sortable,
* `isOrderFault_of_ofName` — and if it has none, a run that is no number is what it fails on.

The middle step is `runs_append`: where the class of the characters changes, the cut of the whole is
the cuts of the parts.
-/

namespace StorageInventory.Name

open Text

/-- A maximal run of a name: characters that are all decimal digits or all not, between neighbours
of the other class. -/
def IsRun (name : Text) (digits : Bool) (run : Text) : Prop :=
  run ≠ [] ∧ (∀ c ∈ run, isDecimal c = digits) ∧
    ∃ before after, name = before ++ run ++ after ∧
      (∀ c ∈ before.getLast?, isDecimal c ≠ digits) ∧ (∀ c ∈ after.head?, isDecimal c ≠ digits)

/-- A name that has a place in the natural order: no run of decimal digits is longer than a whole
numeral may be, and no run between them consists of digit-like characters alone. -/
def Sortable (name : Text) : Prop :=
  (∀ run, IsRun name true run → run.length ≤ Number.digitLimit) ∧
    ∀ run, IsRun name false run → ∃ c ∈ run, isDigitLike c = false

/-! ## The cut of a name -/

/-- A character either lengthens the run that follows or starts a run of its own. -/
theorem runs_cons (c : Char) (rest : Text) :
    (∃ run more, runs rest = (isDecimal c, run) :: more ∧
      runs (c :: rest) = (isDecimal c, c :: run) :: more) ∨
    ((∀ r ∈ (runs rest).head?, isDecimal c ≠ r.1) ∧
      runs (c :: rest) = (isDecimal c, [c]) :: runs rest) := by
  rw [runs]
  cases h : runs rest with
  | nil => exact .inr ⟨by simp, rfl⟩
  | cons r more =>
    obtain ⟨digits, run⟩ := r
    by_cases hc : isDecimal c = digits
    · subst hc
      exact .inl ⟨run, more, rfl, by simp⟩
    · exact .inr ⟨by simpa using hc, by simp [hc]⟩

/-- The runs make up the name. -/
theorem flatten_runs (name : Text) : (runs name).flatMap Prod.snd = name := by
  induction name with
  | nil => rfl
  | cons c rest ih =>
    rcases runs_cons c rest with ⟨run, more, hr, heq⟩ | ⟨-, heq⟩
    · rw [hr] at ih
      simp only [List.flatMap_cons] at ih
      rw [heq, List.flatMap_cons, List.cons_append, ih]
    · rw [heq, List.flatMap_cons, ih, List.singleton_append]

/-- Every run has characters, and all of the class that it is said to have. -/
theorem class_of_mem_runs {name : Text} {r : Bool × Text} (h : r ∈ runs name) :
    r.2 ≠ [] ∧ ∀ c ∈ r.2, isDecimal c = r.1 := by
  induction name generalizing r with
  | nil => simp [runs] at h
  | cons c rest ih =>
    rcases runs_cons c rest with ⟨run, more, hr, heq⟩ | ⟨-, heq⟩
    · rw [heq] at h
      rcases List.mem_cons.1 h with rfl | h
      · have hrun := (ih (hr ▸ List.mem_cons_self)).2
        refine ⟨by simp, ?_⟩
        intro d hd
        rcases List.mem_cons.1 hd with rfl | hd
        · rfl
        · exact hrun d hd
      · exact ih (hr ▸ List.mem_cons_of_mem _ h)
    · rw [heq] at h
      rcases List.mem_cons.1 h with rfl | h
      · simp
      · exact ih h

/-- Neighbouring runs are of different classes. -/
theorem runs_alternate (name : Text) : (runs name).IsChain (fun a b => a.1 ≠ b.1) := by
  induction name with
  | nil => exact .nil
  | cons c rest ih =>
    rcases runs_cons c rest with ⟨run, more, hr, heq⟩ | ⟨hne, heq⟩
    · rw [hr] at ih
      rw [heq]
      exact List.isChain_cons.2 (List.isChain_cons.1 ih)
    · rw [heq]
      exact List.isChain_cons.2 ⟨fun r hr => hne r hr, ih⟩

/-- Where the class changes, the runs of the whole are those of the parts. -/
theorem runs_append {a b : Text}
    (h : ∀ c ∈ a.getLast?, ∀ d ∈ b.head?, isDecimal c ≠ isDecimal d) :
    runs (a ++ b) = runs a ++ runs b := by
  induction a with
  | nil => rfl
  | cons c a ih =>
    cases a with
    | nil =>
      -- the runs of `b` start with the class of its first character
      have hhead : ∀ r ∈ (runs b).head?, isDecimal c ≠ r.1 := by
        intro r hr
        cases b with
        | nil => simp [runs] at hr
        | cons d b =>
          have hd := h c (by simp) d (by simp)
          rcases runs_cons d b with ⟨run, more, -, heq⟩ | ⟨-, heq⟩ <;>
            · rw [heq] at hr
              simp only [List.head?_cons, Option.mem_def, Option.some.injEq] at hr
              exact hr ▸ hd
      rcases runs_cons c b with ⟨run, more, hr, -⟩ | ⟨-, heq⟩
      · exact absurd rfl (hhead (isDecimal c, run) (by simp [hr]))
      · rw [List.singleton_append, heq]
        rfl
    | cons d a =>
      have ih := ih fun x hx => h x (by rwa [List.getLast?_cons_cons])
      rw [List.cons_append, runs, ih, runs.eq_2 c]
      rcases hd : runs (d :: a) with _ | ⟨⟨digits, run⟩, more⟩
      · -- a name with characters has runs
        rcases runs_cons d a with ⟨_, _, _, heq⟩ | ⟨_, heq⟩
        · exact absurd (heq.symm.trans hd) (by simp)
        · exact absurd (heq.symm.trans hd) (by simp)
      · rw [List.cons_append]
        dsimp only
        split <;> rfl

/-- Characters of one class are one run. -/
theorem runs_of_class {run : Text} {digits : Bool} (hne : run ≠ [])
    (h : ∀ c ∈ run, isDecimal c = digits) : runs run = [(digits, run)] := by
  induction run with
  | nil => exact absurd rfl hne
  | cons c run ih =>
    have hc := h c (by simp)
    cases run with
    | nil => simp [runs, hc]
    | cons d run =>
      rw [runs, ih (by simp) fun x hx => h x (by simp [hx])]
      simp [hc]

/-- What the runs of a name are is a run of it. -/
theorem isRun_of_mem_runs {name : Text} {digits : Bool} {run : Text}
    (h : (digits, run) ∈ runs name) : IsRun name digits run := by
  obtain ⟨front, back, heq⟩ := List.append_of_mem h
  have hchain := runs_alternate name
  have hflat := flatten_runs name
  rw [heq, List.isChain_append] at hchain
  rw [heq, List.flatMap_append, List.flatMap_cons] at hflat
  obtain ⟨-, hback, hfront⟩ := hchain
  have hclass : ∀ r ∈ runs name, _ := fun r hr => class_of_mem_runs hr
  refine ⟨(hclass _ h).1, (hclass _ h).2, front.flatMap Prod.snd, back.flatMap Prod.snd,
    by rw [List.append_assoc, hflat], ?_, ?_⟩
  · intro c hc
    -- `c` is the last character of the run in front, which is of the other class
    rcases List.eq_nil_or_concat front with rfl | ⟨first, r, rfl⟩
    · simp at hc
    · rw [List.concat_eq_append] at hc hfront heq
      have hr := hclass r (by simp [heq])
      obtain ⟨init, d, hlast⟩ := (List.eq_nil_or_concat r.2).resolve_left hr.1
      have hcd : d = c := by simpa [hlast] using hc
      have hmem : d ∈ r.2 := by simp [hlast]
      rw [← hcd, hr.2 d hmem]
      exact hfront r (by simp) (digits, run) (by simp)
  · intro c hc
    -- and here the first of the run behind
    cases back with
    | nil => simp at hc
    | cons r back =>
      have hr := hclass r (by simp [heq])
      obtain ⟨d, rest, hrest⟩ := List.exists_cons_of_ne_nil hr.1
      have hcd : d = c := by simpa [hrest] using hc
      have hmem : d ∈ r.2 := by simp [hrest]
      rw [← hcd, hr.2 d hmem]
      exact fun hd => (List.isChain_cons.1 hback).1 r (by simp) hd.symm

/-- The cut finds exactly the maximal runs. -/
theorem mem_runs_iff {name : Text} {digits : Bool} {run : Text} :
    (digits, run) ∈ runs name ↔ IsRun name digits run := by
  refine ⟨isRun_of_mem_runs, ?_⟩
  rintro ⟨hne, hclass, before, after, rfl, hbefore, hafter⟩
  have hlast : ∀ c ∈ (before ++ run).getLast?, isDecimal c = digits := by
    intro c hc
    obtain ⟨init, d, rfl⟩ := (List.eq_nil_or_concat run).resolve_left hne
    have hcd : d = c := by simpa using hc
    exact hcd ▸ hclass d (by simp)
  have hfirst : ∀ c ∈ run.head?, isDecimal c = digits := by
    intro c hc
    exact hclass c (List.mem_of_mem_head? hc)
  rw [runs_append fun c hc d hd => by rw [hlast c hc]; exact (hafter d hd).symm,
    runs_append fun c hc d hd => by rw [hfirst d hd]; exact hbefore c hc,
    runs_of_class hne hclass]
  simp

/-! ## Names that have a key -/

/-- A fault of the natural order: a run of digits that is too long, or one that only looks like a
number. -/
def IsOrderFault (fault : Fault) : Prop :=
  (∃ digits, fault = .integerTooLong digits) ∨ ∃ run, fault = .notInteger 10 run

/-- The run has a chunk: it is a number that is not too long, or a word. -/
def HasChunk (r : Bool × Text) : Prop :=
  (r.1 = true → r.2.length ≤ Number.digitLimit) ∧
    (r.1 = false → ∃ c ∈ r.2, isDigitLike c = false)

/-- A run gives a chunk exactly if it has one. -/
theorem ofRun_isOk_iff (r : Bool × Text) : (∃ chunk, Chunk.ofRun r = .ok chunk) ↔ HasChunk r := by
  obtain ⟨digits, run⟩ := r
  cases digits with
  | true =>
    rw [Chunk.ofRun]
    split
    · next h => simp [HasChunk, h]
    · next h => simp [HasChunk, Nat.le_of_not_lt h]
  | false =>
    rw [Chunk.ofRun]
    split
    · next h => simpa [HasChunk] using h
    · next h => simpa [HasChunk] using h

/-- Where a run gives no chunk, the name has no place in the order. -/
theorem isOrderFault_of_ofRun {r : Bool × Text} {fault : Fault}
    (h : Chunk.ofRun r = .error fault) : IsOrderFault fault := by
  obtain ⟨digits, run⟩ := r
  cases digits with
  | true =>
    rw [Chunk.ofRun] at h
    split at h
    · exact .inl ⟨run.length, (Except.error.inj h).symm⟩
    · simp at h
  | false =>
    rw [Chunk.ofRun] at h
    split at h
    · exact .inr ⟨run, (Except.error.inj h).symm⟩
    · simp at h

/-- Runs give chunks exactly if each of them has one. -/
theorem chunksOf_isOk_iff (rs : List (Bool × Text)) :
    (∃ chunks, chunksOf rs = .ok chunks) ↔ ∀ r ∈ rs, HasChunk r := by
  induction rs with
  | nil => simp [chunksOf]
  | cons r rs ih =>
    have hr := ofRun_isOk_iff r
    rw [chunksOf, List.forall_mem_cons, ← ih, ← hr]
    cases h : Chunk.ofRun r with
    | error fault => simp
    | ok chunk => simp [exists_map_eq_ok_iff]

/-- Where runs give no chunks, the name has no place in the order. -/
theorem isOrderFault_of_chunksOf {rs : List (Bool × Text)} {fault : Fault}
    (h : chunksOf rs = .error fault) : IsOrderFault fault := by
  induction rs with
  | nil => simp [chunksOf] at h
  | cons r rs ih =>
    rw [chunksOf] at h
    cases hr : Chunk.ofRun r with
    | error other =>
      rw [hr] at h
      exact Except.error.inj h ▸ isOrderFault_of_ofRun hr
    | ok chunk =>
      rw [hr] at h
      exact ih (map_eq_error_iff.1 h)

/-- Sortable names are those whose runs, as they are cut, all have chunks. -/
theorem sortable_iff (name : Text) : Sortable name ↔ ∀ r ∈ runs name, HasChunk r := by
  constructor
  · rintro ⟨hnumbers, hwords⟩ ⟨digits, run⟩ hmem
    have hrun := mem_runs_iff.1 hmem
    exact ⟨fun hd => hnumbers run (hd ▸ hrun), fun hd => hwords run (hd ▸ hrun)⟩
  · exact fun h => ⟨fun run hrun => (h _ (mem_runs_iff.2 hrun)).1 rfl,
      fun run hrun => (h _ (mem_runs_iff.2 hrun)).2 rfl⟩

/-- A name has a key exactly if it is sortable. -/
theorem ofName_isOk_iff (name : Text) :
    (∃ key, NaturalKey.ofName name = .ok key) ↔ Sortable name := by
  rw [sortable_iff, ← chunksOf_isOk_iff, NaturalKey.ofName, exists_map_eq_ok_iff]

/-- Where a name has no key, it has no place in the order. -/
theorem isOrderFault_of_ofName {name : Text} {fault : Fault}
    (h : NaturalKey.ofName name = .error fault) : IsOrderFault fault := by
  rw [NaturalKey.ofName, map_eq_error_iff] at h
  exact isOrderFault_of_chunksOf h

/-- A fault of the natural order is a value error. -/
theorem IsOrderFault.className {fault : Fault} (h : IsOrderFault fault) :
    fault.className = "ValueError".toList := by
  rcases h with ⟨digits, rfl⟩ | ⟨run, rfl⟩ <;> rfl

/-- A fault of the order is not that of a name which cannot be looked up. -/
theorem IsOrderFault.ne_partitionName {fault : Fault} (h : IsOrderFault fault) (name : Text) :
    fault ≠ .partitionName name := by
  rcases h with ⟨digits, rfl⟩ | ⟨run, rfl⟩ <;> simp

/-- Whether a name is sortable is seen on its key. -/
instance (name : Text) : Decidable (Sortable name) :=
  decidable_of_iff ((NaturalKey.ofName name).isOk = true) (isOk_iff.trans (ofName_isOk_iff name))

end StorageInventory.Name
