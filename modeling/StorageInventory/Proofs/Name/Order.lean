import Mathlib.Data.Char
import Mathlib.Data.List.Lex
import Mathlib.Data.Prod.Lex
import Mathlib.Data.Sum.Order
import Mathlib.Tactic
import StorageInventory.Name.NaturalKey

/-!
# The natural order is a linear order

Keys are compared by three Boolean functions: one for texts, one for chunks, one for keys.  Each of
them is the order of a type that is known to be linear, so that totality, transitivity and
antisymmetry need no proof of their own:

* `Text.le_iff` — texts are ordered as lists of characters,
* `Chunk.le_iff` — chunks as the sum of the numbers and the texts, numbers first,
* `NaturalKey.le_iff` — keys as pairs of a list of chunks and a name.

`NaturalKey.rank` sends a key to the last of these types.
-/

namespace StorageInventory

/-- The order by code point is the lexicographic order of characters. -/
theorem Text.le_iff {a b : Text} : Text.le a b = true ↔ a ≤ b := by
  induction a generalizing b with
  | nil => cases b <;> simp [Text.le, le_iff_lt_or_eq]
  | cons c a ih =>
    cases b with
    | nil => simp [Text.le, le_iff_lt_or_eq]
    | cons d b =>
      rw [Text.le, le_iff_lt_or_eq, List.cons_lt_cons_iff, List.cons.injEq]
      by_cases h : c = d
      · simp [h, ih, le_iff_lt_or_eq]
      · have hlt : c.toNat < d.toNat ↔ c < d := Iff.rfl
        simp [h, hlt]

namespace Name

namespace Chunk

/-- The place of a chunk: numbers by value, then words by code point. -/
def rank : Chunk → ℕ ⊕ₗ Text
  | .number value => toLex (.inl value)
  | .word text => toLex (.inr text)

/-- Different chunks have different ranks. -/
theorem rank_injective : Function.Injective rank := by
  intro a b h
  cases a <;> cases b <;> simp_all [rank]

/-- Chunks are ordered as their ranks are. -/
theorem le_iff {a b : Chunk} : Chunk.le a b = true ↔ a.rank ≤ b.rank := by
  cases a <;> cases b <;> simp [Chunk.le, rank, Text.le_iff]

end Chunk

namespace NaturalKey

/-- The place of a key: by its chunks first, and by its name where those are the same. -/
def rank (key : NaturalKey) : List (ℕ ⊕ₗ Text) ×ₗ Text :=
  toLex (key.chunks.map Chunk.rank, key.name)

/-- Different keys have different ranks. -/
theorem rank_injective : Function.Injective rank := by
  rintro ⟨a, n⟩ ⟨b, m⟩ h
  have hpair := Prod.ext_iff.1 (toLex.injective h)
  have hchunks : a = b := List.map_injective_iff.2 Chunk.rank_injective hpair.1
  rw [hchunks, show n = m from hpair.2]

/-- No chunk tells a list from itself. -/
theorem compareChunks_self (a : List Chunk) : compareChunks a a = none := by
  induction a with
  | nil => rfl
  | cons c a ih => rw [compareChunks, if_pos rfl, ih]

/-- Lists of chunks that differ are told apart by the first chunk that differs. -/
theorem compareChunks_of_ne {a b : List Chunk} (h : a ≠ b) :
    compareChunks a b = some (decide (a.map Chunk.rank < b.map Chunk.rank)) := by
  induction a generalizing b with
  | nil =>
    cases b with
    | nil => exact absurd rfl h
    | cons d b => simp [compareChunks]
  | cons c a ih =>
    cases b with
    | nil => simp [compareChunks]
    | cons d b =>
      rw [compareChunks]
      by_cases hcd : c = d
      -- equal first chunks leave the comparison to the others, as in the order of lists
      · have hab : a ≠ b := fun hab => h (by rw [hcd, hab])
        rw [if_pos hcd, ih hab]
        simp [hcd]
      · have hne : c.rank ≠ d.rank := fun heq => hcd (Chunk.rank_injective heq)
        rw [if_neg hcd]
        congr 1
        rw [Bool.eq_iff_iff, Chunk.le_iff, decide_eq_true_iff, List.map_cons, List.map_cons,
          List.cons_lt_cons_iff]
        simp [hne, le_iff_lt_or_eq]

/-- Keys are ordered as their ranks are. -/
theorem le_iff {a b : NaturalKey} : a.le b = true ↔ a.rank ≤ b.rank := by
  rw [NaturalKey.le, rank, rank, Prod.Lex.toLex_le_toLex]
  by_cases h : a.chunks = b.chunks
  · rw [h, compareChunks_self]
    simp [Text.le_iff]
  · have hne : a.chunks.map Chunk.rank ≠ b.chunks.map Chunk.rank :=
      fun heq => h (List.map_injective_iff.2 Chunk.rank_injective heq)
    rw [compareChunks_of_ne h]
    simp [hne]

/-- Any two keys can be ordered. -/
theorem le_total (a b : NaturalKey) : a.le b = true ∨ b.le a = true := by
  rw [le_iff, le_iff]
  exact LinearOrder.le_total _ _

/-- The order of keys is transitive. -/
theorem le_trans {a b c : NaturalKey} (hab : a.le b = true) (hbc : b.le c = true) :
    a.le c = true := by
  rw [le_iff] at hab hbc ⊢
  exact hab.trans hbc

end NaturalKey

end Name

end StorageInventory
