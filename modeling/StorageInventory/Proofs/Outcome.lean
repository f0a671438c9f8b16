import Mathlib.Tactic
import StorageInventory.Fault

/-!
# Outcomes

An outcome is a result or a fault.  Mapping works on the result and keeps the fault.  Where the
system refuses, this counts as something missing, and one goes on.
-/

namespace StorageInventory

variable {α β : Type}

/-! ## Results and faults -/

/-- A mapped outcome has a result exactly if there is one to map. -/
theorem map_eq_ok_iff {f : α → β} {x : Except Fault α} {b : β} :
    x.map f = .ok b ↔ ∃ a, x = .ok a ∧ f a = b := by
  cases x <;> simp [Except.map]

/-- Mapping neither makes nor hides a fault. -/
theorem map_eq_error_iff {f : α → β} {x : Except Fault α} {fault : Fault} :
    x.map f = .error fault ↔ x = .error fault := by
  cases x <;> simp [Except.map]

/-- Another fault in the place of a fault leaves the results as they are. -/
theorem mapError_eq_ok_iff {f : Fault → Fault} {x : Except Fault α} {a : α} :
    x.mapError f = .ok a ↔ x = .ok a := by
  cases x <;> simp [Except.mapError]

/-- A sequence has a result exactly if both of its parts do. -/
theorem bind_eq_ok_iff {f : α → Except Fault β} {x : Except Fault α} {b : β} :
    x.bind f = .ok b ↔ ∃ a, x = .ok a ∧ f a = .ok b := by
  cases x <;> simp [Except.bind]

/-- Whether there is a result does not depend on what it is mapped to. -/
theorem exists_map_eq_ok_iff {f : α → β} {x : Except Fault α} :
    (∃ b, x.map f = .ok b) ↔ ∃ a, x = .ok a := by
  cases x <;> simp [Except.map]

/-- A list whose elements all have results has the list of them. -/
theorem mapM_eq_ok {f : α → Except Fault β} {g : α → β} {xs : List α}
    (h : ∀ x ∈ xs, f x = .ok (g x)) : xs.mapM f = .ok (xs.map g) := by
  induction xs with
  | nil => rfl
  | cons x xs ih =>
    rw [List.mapM_cons, h x (by simp), ih fun y hy => h y (List.mem_cons_of_mem _ hy)]
    rfl

/-- The list of results depends only on what comes of the elements. -/
theorem mapM_congr {f g : α → Except Fault β} {xs : List α} (h : ∀ x ∈ xs, f x = g x) :
    xs.mapM f = xs.mapM g := by
  induction xs with
  | nil => rfl
  | cons x xs ih =>
    rw [List.mapM_cons, List.mapM_cons, h x (by simp),
      ih fun y hy => h y (List.mem_cons_of_mem _ hy)]

/-- A list has a list of results exactly if these are the results of its elements. -/
theorem mapM_eq_ok_iff {f : α → Except Fault β} {xs : List α} {ys : List β} :
    xs.mapM f = .ok ys ↔ List.Forall₂ (fun x y => f x = .ok y) xs ys := by
  induction xs generalizing ys with
  | nil =>
    rw [List.mapM_nil, List.forall₂_nil_left_iff]
    exact ⟨fun h => (Except.ok.inj h).symm, fun h => h ▸ rfl⟩
  | cons x xs ih =>
    have hcons : (x :: xs).mapM f = (f x).bind fun y => (xs.mapM f).map (y :: ·) :=
      List.mapM_cons
    rw [hcons, bind_eq_ok_iff, List.forall₂_cons_left_iff]
    simp only [map_eq_ok_iff, ih]
    constructor
    · rintro ⟨y, hy, rest, hrest, rfl⟩
      exact ⟨y, rest, hy, hrest, rfl⟩
    · rintro ⟨y, rest, hy, hrest, rfl⟩
      exact ⟨y, hy, rest, hrest, rfl⟩

/-- A list has a list of results exactly if every element has a result. -/
theorem exists_mapM_eq_ok_iff {f : α → Except Fault β} {xs : List α} :
    (∃ ys, xs.mapM f = .ok ys) ↔ ∀ x ∈ xs, ∃ y, f x = .ok y := by
  simp only [mapM_eq_ok_iff]
  induction xs with
  | nil => simp
  | cons x xs ih =>
    rw [List.forall_mem_cons, ← ih]
    simp only [List.forall₂_cons_left_iff]
    constructor
    · rintro ⟨_, y, rest, hy, hrest, rfl⟩
      exact ⟨⟨y, hy⟩, rest, hrest⟩
    · rintro ⟨⟨y, hy⟩, rest, hrest⟩
      exact ⟨_, y, rest, hy, hrest, rfl⟩

/-- The first element without a result decides the fault. -/
theorem mapM_eq_error {f : α → Except Fault β} {before after : List α} {x : α} {fault : Fault}
    (hbefore : ∀ b ∈ before, ∃ y, f b = .ok y) (h : f x = .error fault) :
    (before ++ x :: after).mapM f = .error fault := by
  induction before with
  | nil =>
    rw [List.nil_append, List.mapM_cons, h]
    rfl
  | cons b rest ih =>
    obtain ⟨⟨y, hy⟩, hrest⟩ := List.forall_mem_cons.1 hbefore
    rw [List.cons_append, List.mapM_cons, hy, ih hrest]
    rfl

/-- The result of an outcome, as an option, is its result. -/
theorem toOption_eq_some_iff {x : Except Fault α} {a : α} : x.toOption = some a ↔ x = .ok a := by
  cases x <;> simp [Except.toOption]

/-- An outcome is good exactly if it has a result. -/
theorem isOk_iff {x : Except Fault α} : x.isOk = true ↔ ∃ a, x = .ok a := by
  cases x <;> simp [Except.isOk, Except.toBool]

/-! ## Going on -/

/-- What was found can be gone on with: something, or what the system refuses, which counts as
missing. -/
def canGoOn : Except Fault α → Bool
  | .ok _ => true
  | .error fault => fault.isSystem

/-- Going on does not depend on what is found. -/
theorem canGoOn_map (f : α → β) (found : Except Fault α) :
    canGoOn (found.map f) = canGoOn found := by
  cases found <;> rfl

end StorageInventory
