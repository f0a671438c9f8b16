import StorageInventory.Text.Basic

/-!
# Sorting

Insertion sort by a Boolean order.  It is stable: of two elements that the order does not tell
apart, the one that came first stays first.

* `mem_sortBy` — sorting keeps the elements,
* `perm_sortBy` — and how often each occurs,
* `pairwise_sortBy` — the result is in order, for a total and transitive order.
-/

namespace StorageInventory

variable {α : Type}

/-- Put an element in front of the first one that it does not come after. -/
def insertSorted (le : α → α → Bool) (a : α) : List α → List α
  | [] => [a]
  | b :: rest => if le a b then a :: b :: rest else b :: insertSorted le a rest

/-- Sort a list. -/
def sortBy (le : α → α → Bool) (xs : List α) : List α := xs.foldr (insertSorted le) []

/-- Insertion adds one element and reorders nothing away. -/
theorem perm_insertSorted (le : α → α → Bool) (a : α) (xs : List α) :
    (insertSorted le a xs).Perm (a :: xs) := by
  induction xs with
  | nil => exact .refl _
  | cons b rest ih =>
    rw [insertSorted]
    split
    · exact .refl _
    · exact (ih.cons b).trans (.swap a b rest)

/-- A sorted list has the elements of the list. -/
theorem perm_sortBy (le : α → α → Bool) (xs : List α) : (sortBy le xs).Perm xs := by
  induction xs with
  | nil => exact .refl _
  | cons a rest ih => exact (perm_insertSorted le a _).trans (ih.cons a)

/-- Sorting neither drops nor invents elements. -/
theorem mem_sortBy {le : α → α → Bool} {xs : List α} {a : α} : a ∈ sortBy le xs ↔ a ∈ xs :=
  (perm_sortBy le xs).mem_iff

/-- Insertion into a sorted list keeps it sorted. -/
theorem pairwise_insertSorted {le : α → α → Bool}
    (total : ∀ a b, le a b = true ∨ le b a = true)
    (trans : ∀ a b c, le a b = true → le b c = true → le a c = true) (a : α) {xs : List α}
    (h : xs.Pairwise (fun x y => le x y = true)) :
    (insertSorted le a xs).Pairwise (fun x y => le x y = true) := by
  induction xs with
  | nil => simp [insertSorted]
  | cons b rest ih =>
    rw [List.pairwise_cons] at h
    rw [insertSorted]
    split
    · next hab =>
      refine List.pairwise_cons.2 ⟨fun y hy => ?_, List.pairwise_cons.2 h⟩
      rcases List.mem_cons.1 hy with rfl | hy
      · exact hab
      · exact trans a b y hab (h.1 y hy)
    · next hab =>
      refine List.pairwise_cons.2 ⟨fun y hy => ?_, ih h.2⟩
      rcases List.mem_cons.1 ((perm_insertSorted le a rest).mem_iff.1 hy) with rfl | hy
      · exact (total y b).resolve_left hab
      · exact h.1 y hy

/-- Sorting by a total and transitive order gives a list in that order. -/
theorem pairwise_sortBy {le : α → α → Bool}
    (total : ∀ a b, le a b = true ∨ le b a = true)
    (trans : ∀ a b c, le a b = true → le b c = true → le a c = true) (xs : List α) :
    (sortBy le xs).Pairwise (fun x y => le x y = true) := by
  induction xs with
  | nil => exact .nil
  | cons a rest ih => exact pairwise_insertSorted total trans a ih

end StorageInventory
