import Mathlib.Data.List.Sort
import Mathlib.Tactic
import StorageInventory.Proofs.Name.Order
import StorageInventory.Proofs.Name.Runs

/-!
# Lists in natural order

`sortByName` makes a list of records with names an arranged one: every name has a place in the
natural order, and each comes before all that follow it.  An arrangement of given records is unique,
so whatever leads to the same records leads to the same list.

* `sortByName_isOk_iff` — sorting succeeds exactly if every name is sortable,
* `sortByName_eq_ok_iff` — and gives the one arranged permutation, for distinct names,
* `Arranged.eq_of_perm` — there is only one.
-/

namespace StorageInventory.Name

variable {α : Type} {nameOf : α → Text}

/-- One name comes before another in the natural order. -/
def Before (a b : Text) : Prop :=
  ∃ ka kb, NaturalKey.ofName a = .ok ka ∧ NaturalKey.ofName b = .ok kb ∧ ka.rank < kb.rank

/-- All names have a place in the natural order, and they stand in it, none twice. -/
def Arranged (nameOf : α → Text) (xs : List α) : Prop :=
  (∀ x ∈ xs, Sortable (nameOf x)) ∧ xs.Pairwise fun x y => Before (nameOf x) (nameOf y)

/-! ## The order of names -/

/-- A key holds the name that it was made of. -/
theorem name_of_ofName {name : Text} {key : NaturalKey} (h : NaturalKey.ofName name = .ok key) :
    key.name = name := by
  rw [NaturalKey.ofName, map_eq_ok_iff] at h
  obtain ⟨chunks, -, rfl⟩ := h
  rfl

/-- No name comes before itself. -/
theorem not_before_self (a : Text) : ¬ Before a a := by
  rintro ⟨ka, kb, ha, hb, hlt⟩
  rw [ha, Except.ok.injEq] at hb
  exact absurd hlt (hb ▸ lt_irrefl _)

/-- A name that comes before another differs from it. -/
theorem Before.ne {a b : Text} (h : Before a b) : a ≠ b := by
  rintro rfl
  exact not_before_self a h

theorem Before.trans {a b c : Text} (hab : Before a b) (hbc : Before b c) : Before a c := by
  obtain ⟨ka, kb, ha, hb, hlt⟩ := hab
  obtain ⟨kb', kc, hb', hc, hlt'⟩ := hbc
  rw [hb, Except.ok.injEq] at hb'
  subst hb'
  exact ⟨ka, kc, ha, hc, hlt.trans hlt'⟩

/-- Of two names, at most one comes before the other. -/
theorem Before.asymm {a b : Text} (hab : Before a b) : ¬ Before b a :=
  fun hba => not_before_self a (hab.trans hba)

/-- Of two different names that have a place, one comes before the other. -/
theorem before_or_before {a b : Text} (ha : Sortable a) (hb : Sortable b) (hne : a ≠ b) :
    Before a b ∨ Before b a := by
  obtain ⟨ka, hka⟩ := (ofName_isOk_iff a).2 ha
  obtain ⟨kb, hkb⟩ := (ofName_isOk_iff b).2 hb
  have hkeys : ka.rank ≠ kb.rank := by
    intro heq
    apply hne
    rw [← name_of_ofName hka, ← name_of_ofName hkb, NaturalKey.rank_injective heq]
  rcases lt_or_gt_of_ne hkeys with hlt | hlt
  · exact .inl ⟨ka, kb, hka, hkb, hlt⟩
  · exact .inr ⟨kb, ka, hkb, hka, hlt⟩

/-! ## Sorting -/

/-- Elements are keyed in their order, each with the key of its name. -/
theorem keyed_eq_ok_iff {xs : List α} {pairs : List (NaturalKey × α)} :
    keyed nameOf xs = .ok pairs ↔
      pairs.map Prod.snd = xs ∧ ∀ p ∈ pairs, NaturalKey.ofName (nameOf p.2) = .ok p.1 := by
  induction xs generalizing pairs with
  | nil => cases pairs <;> simp [keyed]
  | cons x xs ih =>
    rw [keyed]
    cases hx : NaturalKey.ofName (nameOf x) with
    | error fault =>
      constructor
      · simp
      · -- the first pair would have to hold a key of `x`
        rintro ⟨hmap, hkeys⟩
        obtain ⟨p, rest, rfl, rfl, -⟩ := List.map_eq_cons_iff.1 hmap
        exact absurd ((hkeys p (by simp)).symm.trans hx) (by simp)
    | ok key =>
      constructor
      · intro h
        obtain ⟨rest, hrest, rfl⟩ := map_eq_ok_iff.1 h
        obtain ⟨hmap, hkeys⟩ := ih.1 hrest
        refine ⟨by rw [List.map_cons, hmap], ?_⟩
        intro p hp
        rcases List.mem_cons.1 hp with rfl | hp
        · exact hx
        · exact hkeys p hp
      · rintro ⟨hmap, hkeys⟩
        obtain ⟨⟨k, y⟩, rest, rfl, rfl, htail⟩ := List.map_eq_cons_iff.1 hmap
        have hk := (hkeys _ List.mem_cons_self).symm.trans hx
        rw [Except.ok.injEq] at hk
        simp only at hk
        subst hk
        rw [ih.2 ⟨htail, fun p hp => hkeys p (List.mem_cons_of_mem _ hp)⟩]
        rfl

/-- Elements can be keyed exactly if all their names are sortable. -/
theorem keyed_isOk_iff (nameOf : α → Text) (xs : List α) :
    (∃ pairs, keyed nameOf xs = .ok pairs) ↔ ∀ x ∈ xs, Sortable (nameOf x) := by
  induction xs with
  | nil => simp [keyed]
  | cons x xs ih =>
    have hx := ofName_isOk_iff (nameOf x)
    rw [keyed, List.forall_mem_cons, ← ih, ← hx]
    cases h : NaturalKey.ofName (nameOf x) with
    | error fault => simp
    | ok key => simp [exists_map_eq_ok_iff]

/-- Where keying fails, a name has no place in the order. -/
theorem isOrderFault_of_keyed {xs : List α} {fault : Fault}
    (h : keyed nameOf xs = .error fault) : IsOrderFault fault := by
  induction xs with
  | nil => simp [keyed] at h
  | cons x xs ih =>
    rw [keyed] at h
    cases hx : NaturalKey.ofName (nameOf x) with
    | error other =>
      rw [hx] at h
      exact Except.error.inj h ▸ isOrderFault_of_ofName hx
    | ok key =>
      rw [hx] at h
      exact ih (map_eq_error_iff.1 h)

/-- Sorting succeeds exactly if every name is sortable. -/
theorem sortByName_isOk_iff (nameOf : α → Text) (xs : List α) :
    (∃ ys, sortByName nameOf xs = .ok ys) ↔ ∀ x ∈ xs, Sortable (nameOf x) := by
  rw [← keyed_isOk_iff, sortByName, exists_map_eq_ok_iff]

/-- What makes sorting fail is a fault of the natural order. -/
theorem isOrderFault_of_sortByName {xs : List α} {fault : Fault}
    (h : sortByName nameOf xs = .error fault) : IsOrderFault fault := by
  rw [sortByName, map_eq_error_iff] at h
  exact isOrderFault_of_keyed h

/-- What has been sorted by name has sortable names. -/
theorem sortable_of_sortByName {xs ys : List α} (h : sortByName nameOf xs = .ok ys) :
    ∀ x ∈ xs, Sortable (nameOf x) :=
  (sortByName_isOk_iff nameOf xs).1 ⟨ys, h⟩

/-- Sorting keeps the records. -/
theorem perm_of_sortByName {xs ys : List α} (h : sortByName nameOf xs = .ok ys) : ys.Perm xs := by
  obtain ⟨pairs, hk, rfl⟩ := map_eq_ok_iff.1 h
  rw [← (keyed_eq_ok_iff.1 hk).1]
  exact (perm_sortBy _ pairs).map Prod.snd

/-- Sorting records with distinct names arranges them. -/
theorem arranged_of_sortByName {xs ys : List α} (hnd : (xs.map nameOf).Nodup)
    (h : sortByName nameOf xs = .ok ys) : Arranged nameOf ys := by
  have hperm := perm_of_sortByName h
  refine ⟨fun y hy => sortable_of_sortByName h y (hperm.mem_iff.1 hy), ?_⟩
  have hne : (ys.map nameOf).Nodup := (hperm.map nameOf).nodup_iff.2 hnd
  obtain ⟨pairs, hk, rfl⟩ := map_eq_ok_iff.1 h
  have hkeys := (keyed_eq_ok_iff.1 hk).2
  have hsorted := pairwise_sortBy (fun a b : NaturalKey × α => a.1.le_total b.1)
    (fun a b c => NaturalKey.le_trans) pairs
  rw [List.Nodup, List.pairwise_map, List.pairwise_map] at hne
  rw [List.pairwise_map]
  -- the keys ascend; no two are the same, since a key holds its name
  refine (hsorted.and hne).imp_of_mem fun {p q} hp hq hpq => ?_
  have hp' := hkeys p (mem_sortBy.1 hp)
  have hq' := hkeys q (mem_sortBy.1 hq)
  refine ⟨p.1, q.1, hp', hq', lt_of_le_of_ne (NaturalKey.le_iff.1 hpq.1) fun heq => hpq.2 ?_⟩
  rw [← name_of_ofName hp', ← name_of_ofName hq', NaturalKey.rank_injective heq]

/-- What is arranged has no name twice. -/
theorem Arranged.nodup {xs : List α} (h : Arranged nameOf xs) : (xs.map nameOf).Nodup := by
  rw [List.Nodup, List.pairwise_map]
  exact h.2.imp Before.ne

/-- Records can be arranged in one way only. -/
theorem Arranged.eq_of_perm {xs ys : List α} (hx : Arranged nameOf xs) (hy : Arranged nameOf ys)
    (h : xs.Perm ys) : xs = ys :=
  h.eq_of_pairwise (fun _ _ _ _ hab hba => absurd hba hab.asymm) hx.2 hy.2

/-- Names stand in natural order where the records named do. -/
theorem arranged_map_iff {xs : List α} : Arranged id (xs.map nameOf) ↔ Arranged nameOf xs := by
  rw [Arranged, List.forall_mem_map, List.pairwise_map]
  rfl

/-- Sorting records with distinct names gives their arrangement, if they have one. -/
theorem sortByName_eq_ok_iff {xs ys : List α} (hnd : (xs.map nameOf).Nodup) :
    sortByName nameOf xs = .ok ys ↔ ys.Perm xs ∧ Arranged nameOf ys := by
  constructor
  · exact fun h => ⟨perm_of_sortByName h, arranged_of_sortByName hnd h⟩
  · rintro ⟨hperm, harr⟩
    obtain ⟨zs, hzs⟩ := (sortByName_isOk_iff nameOf xs).2
      fun x hx => harr.1 x (hperm.mem_iff.2 hx)
    have harr' := arranged_of_sortByName hnd hzs
    rw [hzs, harr.eq_of_perm harr' (hperm.trans (perm_of_sortByName hzs).symm)]

/-- What is arranged stays as it is. -/
theorem sortByName_of_arranged {xs : List α} (h : Arranged nameOf xs) :
    sortByName nameOf xs = .ok xs :=
  (sortByName_eq_ok_iff h.nodup).2 ⟨.refl xs, h⟩

end StorageInventory.Name
