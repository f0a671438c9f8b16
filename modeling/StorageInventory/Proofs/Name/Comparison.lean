import Mathlib.Tactic
import StorageInventory.Proofs.Name.Arrangement

/-!
# Keys compared place by place

A key is compared as a nest of sequences: it is the sequence of its chunks, and then its name; a
chunk is a tag, zero for a number and one for a word, and then the number or the word.  Of two
sequences the first place where they differ decides.  A number and a text cannot be compared at all,
so a comparison may come to nothing.

* `NaturalKey.less?_eq` — on keys it always comes to an answer, and the answer is the natural order,
* `before_of_digits` — runs of digits count by value,
* `natural_order` — what the order of names is, all in all.
-/

namespace StorageInventory.Name

open Text

/-! ## Comparing sequences -/

/-- The innermost parts of a key. -/
inductive Atom where
  | number (n : ℕ)
  | text (t : Text)
  deriving DecidableEq

/-- One atom is less than another; there is no answer for a number and a text. -/
def Atom.less? : Atom → Atom → Option Bool
  | .number a, .number b => some (decide (a < b))
  | .text a, .text b => some (decide (a < b))
  | _, _ => none

/-- One sequence is less than another, by the first place where they differ; a proper beginning is
less. -/
def seqLess? {α : Type} [DecidableEq α] (less? : α → α → Option Bool) :
    List α → List α → Option Bool
  | [], [] => some false
  | [], _ :: _ => some true
  | _ :: _, [] => some false
  | a :: as, b :: bs => if a = b then seqLess? less? as bs else less? a b

/-- If the items of sequences are compared as `rank` says, so are the sequences. -/
theorem seqLess?_map {α β γ : Type} [DecidableEq α] [LinearOrder γ]
    {less? : α → α → Option Bool} {image : β → α} {rank : β → γ}
    (himage : Function.Injective image) (hrank : Function.Injective rank)
    (h : ∀ c d, less? (image c) (image d) = some (decide (rank c < rank d))) (a b : List β) :
    seqLess? less? (a.map image) (b.map image) = some (decide (a.map rank < b.map rank)) := by
  induction a generalizing b with
  | nil => cases b <;> simp [seqLess?]
  | cons c a ih =>
    cases b with
    | nil => simp [seqLess?]
    | cons d b =>
      simp only [List.map_cons, seqLess?, List.cons_lt_cons_iff]
      by_cases hcd : c = d
      · rw [if_pos (congrArg image hcd), ih]
        simp [hcd]
      · have hne : rank c ≠ rank d := fun heq => hcd (hrank heq)
        rw [if_neg fun heq => hcd (himage heq), h]
        simp [hne]

/-! ## Comparing keys -/

/-- A chunk as a sequence: its tag, and what it holds. -/
def Chunk.atoms : Chunk → List Atom
  | .number value => [.number 0, .number value]
  | .word text => [.number 1, .text text]

/-- Different chunks have different atoms. -/
theorem Chunk.atoms_injective : Function.Injective Chunk.atoms := by
  intro a b h
  cases a <;> cases b <;> simp_all [Chunk.atoms]

/-- The tags keep numbers and words apart: a number is never compared with a word itself. -/
theorem Chunk.less?_atoms (a b : Chunk) :
    seqLess? Atom.less? a.atoms b.atoms = some (decide (a.rank < b.rank)) := by
  cases a with
  | number m =>
    cases b with
    | number n =>
      by_cases hmn : m = n <;> simp [Chunk.atoms, Chunk.rank, seqLess?, Atom.less?, hmn]
    | word u => simp [Chunk.atoms, Chunk.rank, seqLess?, Atom.less?]
  | word t =>
    cases b with
    | number n => simp [Chunk.atoms, Chunk.rank, seqLess?, Atom.less?]
    | word u =>
      by_cases htu : t = u <;> simp [Chunk.atoms, Chunk.rank, seqLess?, Atom.less?, htu]

namespace NaturalKey

/-- The first part of a key, as a sequence of sequences. -/
def parts (key : NaturalKey) : List (List Atom) := key.chunks.map Chunk.atoms

/-- One key is less than another: the parts decide, and the names where those are the same. -/
def less? (a b : NaturalKey) : Option Bool :=
  if a.parts = b.parts then some (decide (a.name < b.name))
  else seqLess? (seqLess? Atom.less?) a.parts b.parts

/-- Comparing keys always comes to an answer, which is the natural order. -/
theorem less?_eq (a b : NaturalKey) : a.less? b = some (decide (a.rank < b.rank)) := by
  rw [less?, rank, rank]
  have hparts : a.parts = b.parts ↔ a.chunks.map Chunk.rank = b.chunks.map Chunk.rank := by
    rw [parts, parts, (List.map_injective_iff.2 Chunk.atoms_injective).eq_iff,
      (List.map_injective_iff.2 Chunk.rank_injective).eq_iff]
  by_cases h : a.parts = b.parts
  · rw [if_pos h, hparts.1 h]
    simp [Prod.Lex.toLex_lt_toLex]
  · have hne : a.chunks.map Chunk.rank ≠ b.chunks.map Chunk.rank := fun heq => h (hparts.2 heq)
    rw [if_neg h, parts, parts,
      seqLess?_map Chunk.atoms_injective Chunk.rank_injective Chunk.less?_atoms]
    simp [Prod.Lex.toLex_lt_toLex, hne]

/-- The order by which lists are sorted is that of the comparison. -/
theorem less?_eq_not_le (a b : NaturalKey) : a.less? b = some (!b.le a) := by
  rw [less?_eq, Option.some.injEq, Bool.eq_iff_iff, decide_eq_true_iff, Bool.not_eq_true',
    ← Bool.not_eq_true, le_iff, not_le]

end NaturalKey

/-- The comparison of the keys of two names says which name comes first. -/
theorem before_iff_less? {a b : Text} {ka kb : NaturalKey} (ha : NaturalKey.ofName a = .ok ka)
    (hb : NaturalKey.ofName b = .ok kb) : Before a b ↔ ka.less? kb = some true := by
  rw [NaturalKey.less?_eq, Option.some.injEq, decide_eq_true_iff]
  constructor
  · rintro ⟨ka', kb', ha', hb', hlt⟩
    rw [ha, Except.ok.injEq] at ha'
    rw [hb, Except.ok.injEq] at hb'
    rwa [ha', hb']
  · intro hlt
    exact ⟨ka, kb, ha, hb, hlt⟩

/-! ## Runs of digits -/

/-- The number that a run of decimal digits writes. -/
def valueOf (digits : Text) : ℕ := Number.ofDigits (digits.filterMap decimalDigit?)

/-- The chunks of two lists of runs are those of the one and then those of the other. -/
theorem chunksOf_append {a b : List (Bool × Text)} {chunks : List Chunk}
    (h : chunksOf (a ++ b) = .ok chunks) :
    ∃ x y, chunksOf a = .ok x ∧ chunksOf b = .ok y ∧ chunks = x ++ y := by
  induction a generalizing chunks with
  | nil => exact ⟨[], chunks, rfl, h, rfl⟩
  | cons r a ih =>
    rw [List.cons_append, chunksOf] at h
    rw [chunksOf]
    cases hr : Chunk.ofRun r with
    | error fault => simp [hr] at h
    | ok chunk =>
      rw [hr] at h
      obtain ⟨rest, hrest, rfl⟩ := map_eq_ok_iff.1 h
      obtain ⟨x, y, hx, hy, rfl⟩ := ih hrest
      exact ⟨chunk :: x, y, map_eq_ok_iff.2 ⟨x, hx, rfl⟩, hy, rfl⟩

/-- A run of digits between texts that it cannot be joined to is a run of the whole. -/
theorem runs_around {p m s : Text} (hp : ∀ c ∈ p.getLast?, isDecimal c = false) (hm : m ≠ [])
    (hdigits : ∀ c ∈ m, isDecimal c = true) (hs : ∀ c ∈ s.head?, isDecimal c = false) :
    runs (p ++ m ++ s) = runs p ++ (true, m) :: runs s := by
  have hfirst : runs (p ++ m) = runs p ++ runs m := by
    refine runs_append fun c hc d hd => ?_
    rw [hp c hc, hdigits d (List.mem_of_mem_head? hd)]
    decide
  have hsecond : runs (p ++ m ++ s) = runs (p ++ m) ++ runs s := by
    refine runs_append fun c hc d hd => ?_
    have hc : c ∈ m := by
      rw [List.getLast?_append_of_ne_nil p hm] at hc
      exact List.mem_of_mem_getLast? hc
    rw [hs d hd, hdigits c hc]
    decide
  rw [hsecond, hfirst, runs_of_class hm hdigits, List.append_assoc, List.singleton_append]

/-- The key of a name with a run of digits has the value of the run, behind the chunks of what
stands in front. -/
theorem chunks_around {p m s : Text} (hp : ∀ c ∈ p.getLast?, isDecimal c = false) (hm : m ≠ [])
    (hdigits : ∀ c ∈ m, isDecimal c = true) (hs : ∀ c ∈ s.head?, isDecimal c = false)
    {key : NaturalKey} (hkey : NaturalKey.ofName (p ++ m ++ s) = .ok key) :
    ∃ before after, chunksOf (runs p) = .ok before ∧
      key.chunks = before ++ .number (valueOf m) :: after := by
  rw [NaturalKey.ofName, runs_around hp hm hdigits hs] at hkey
  obtain ⟨chunks, hchunks, rfl⟩ := map_eq_ok_iff.1 hkey
  obtain ⟨before, behind, hbefore, hbehind, rfl⟩ := chunksOf_append hchunks
  rw [chunksOf] at hbehind
  cases hr : Chunk.ofRun (true, m) with
  | error fault => simp [hr] at hbehind
  | ok chunk =>
    rw [hr] at hbehind
    obtain ⟨after, -, rfl⟩ := map_eq_ok_iff.1 hbehind
    have hchunk : chunk = .number (valueOf m) := by
      rw [Chunk.ofRun] at hr
      split at hr
      · simp at hr
      · exact (Except.ok.inj hr).symm
    exact ⟨before, after, hbefore, by rw [hchunk]⟩

/-- Of two names that go on alike up to a run of digits each, the one with the smaller number comes
first, whatever follows. -/
theorem before_of_digits {p m n s t : Text} (hp : ∀ c ∈ p.getLast?, isDecimal c = false)
    (hm : m ≠ []) (hdm : ∀ c ∈ m, isDecimal c = true) (hn : n ≠ [])
    (hdn : ∀ c ∈ n, isDecimal c = true) (hs : ∀ c ∈ s.head?, isDecimal c = false)
    (ht : ∀ c ∈ t.head?, isDecimal c = false) (hlt : valueOf m < valueOf n)
    (ha : Sortable (p ++ m ++ s)) (hb : Sortable (p ++ n ++ t)) :
    Before (p ++ m ++ s) (p ++ n ++ t) := by
  obtain ⟨ka, hka⟩ := (ofName_isOk_iff _).2 ha
  obtain ⟨kb, hkb⟩ := (ofName_isOk_iff _).2 hb
  obtain ⟨x, after, hx, hchunks⟩ := chunks_around hp hm hdm hs hka
  obtain ⟨y, after', hy, hchunks'⟩ := chunks_around hp hn hdn ht hkb
  have hxy : x = y := Except.ok.inj (hx.symm.trans hy)
  refine ⟨ka, kb, hka, hkb, ?_⟩
  rw [NaturalKey.rank, NaturalKey.rank, hchunks, hchunks', hxy]
  -- the keys agree up to the two numbers, which decide
  have hranks : (Chunk.number (valueOf m)).rank < (Chunk.number (valueOf n)).rank := by
    simpa [Chunk.rank] using hlt
  refine Prod.Lex.toLex_lt_toLex.2 (.inl ?_)
  simp only [List.map_append, List.map_cons]
  exact List.append_left_lt (List.cons_lt_cons_iff.2 (.inl hranks))

/-! ## The natural order -/

/-- Names with one key are one name, since a key holds its name. -/
theorem eq_of_ofName_eq {a b : Text} {key : NaturalKey} (ha : NaturalKey.ofName a = .ok key)
    (hb : NaturalKey.ofName b = .ok key) : a = b :=
  (name_of_ofName ha).symm.trans (name_of_ofName hb)

/-- Sorting distinct names gives one list, whatever their order was. -/
theorem sortByName_of_perm {names others : List Text} (hnd : names.Nodup)
    (hall : ∀ name ∈ names, Sortable name) (hperm : others.Perm names) :
    ∃ sorted, sortByName id names = .ok sorted ∧ sortByName id others = .ok sorted := by
  obtain ⟨sorted, hsorted⟩ := (sortByName_isOk_iff id names).2 hall
  have harranged := (sortByName_eq_ok_iff (by simpa using hnd)).1 hsorted
  have hothers : (others.map id).Nodup := by simpa using hperm.nodup_iff.2 hnd
  exact ⟨sorted, hsorted,
    (sortByName_eq_ok_iff hothers).2 ⟨harranged.1.trans hperm.symm, harranged.2⟩⟩

/-- The natural order of names.

A name has a key exactly if it is sortable: no maximal run of decimal digits has more than 4300 of
them, and no maximal run of other characters is made of digit-like ones alone; for any other name
making the key is a fault of the class for bad values.

Comparing two keys place by place always comes to an answer, the one that lists are sorted by; a
name comes first (`Before`) if its key is less.  No name comes before itself, the order is
transitive, of any two sortable names that differ one comes before the other, and names that differ
have different keys.  So distinct names are sorted to one list, in whatever order they are given.

Runs of digits count by value: of two names that are alike up to a run of digits each, the one with
the smaller number comes first. -/
theorem natural_order :
    (∀ name, ((∃ key, NaturalKey.ofName name = .ok key) ↔ Sortable name) ∧
      ∀ fault, NaturalKey.ofName name = .error fault →
        fault.className = "ValueError".toList) ∧
    (∀ a b ka kb, NaturalKey.ofName a = .ok ka → NaturalKey.ofName b = .ok kb →
      ka.less? kb = some (!kb.le ka) ∧ (Before a b ↔ ka.less? kb = some true)) ∧
    (∀ a, ¬ Before a a) ∧
    (∀ a b c, Before a b → Before b c → Before a c) ∧
    (∀ a b, Sortable a → Sortable b → a ≠ b → Before a b ∨ Before b a) ∧
    (∀ a b key, NaturalKey.ofName a = .ok key → NaturalKey.ofName b = .ok key → a = b) ∧
    (∀ names others : List Text, names.Nodup → (∀ name ∈ names, Sortable name) →
      others.Perm names →
      ∃ sorted, sortByName id names = .ok sorted ∧ sortByName id others = .ok sorted) ∧
    ∀ p m n s t : Text, (∀ c ∈ p.getLast?, isDecimal c = false) →
      m ≠ [] → (∀ c ∈ m, isDecimal c = true) → n ≠ [] → (∀ c ∈ n, isDecimal c = true) →
      (∀ c ∈ s.head?, isDecimal c = false) → (∀ c ∈ t.head?, isDecimal c = false) →
      valueOf m < valueOf n → Sortable (p ++ m ++ s) → Sortable (p ++ n ++ t) →
      Before (p ++ m ++ s) (p ++ n ++ t) := by
  refine ⟨fun name => ⟨ofName_isOk_iff name, fun fault h => ?_⟩, fun a b ka kb ha hb => ?_,
    not_before_self, fun a b c => Before.trans, fun a b => before_or_before,
    fun a b key => eq_of_ofName_eq, fun names others => sortByName_of_perm,
    fun p m n s t => before_of_digits⟩
  · exact (isOrderFault_of_ofName h).className
  · exact ⟨NaturalKey.less?_eq_not_le ka kb, before_iff_less? ha hb⟩

/-- The number in `ada10` is the larger one, though its text comes first. -/
theorem natural_order_ada10 : Before "ada2".toList "ada10".toList := by
  obtain ⟨-, -, -, -, -, -, -, hdigits⟩ := natural_order
  have hletter : ∀ c ∈ "ada".toList.getLast?, isDecimal c = false := by
    rintro c ⟨⟩
    decide
  have htwo : ∀ c ∈ "2".toList, isDecimal c = true := by
    intro c hc
    fin_cases hc
    decide
  have hten : ∀ c ∈ "10".toList, isDecimal c = true := by
    intro c hc
    fin_cases hc <;> decide
  have hless : valueOf "2".toList < valueOf "10".toList := by decide
  have hbefore : Before ("ada".toList ++ "2".toList ++ []) ("ada".toList ++ "10".toList ++ []) :=
    hdigits _ _ _ _ _ hletter (by decide) htwo (by decide) hten (by simp) (by simp) hless
      (by decide +kernel) (by decide +kernel)
  exact hbefore

end StorageInventory.Name
