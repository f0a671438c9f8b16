import Mathlib.Tactic
import StorageInventory.Text.Basic

/-!
# The lines of rows

Rows that are written each with a line feed come back as lines, but a line also ends at every other
line boundary of Unicode, so a row with such characters in it comes back in pieces.

* `lines_unlines` — the lines are the rows, cut at the line boundaries in them,
* `flatMap_splitOnP_eq_self_iff` — nothing is cut exactly if there are none.

Neither holds with carriage returns in the rows: they are replaced, and one before a line feed is
one boundary with it.
-/

namespace StorageInventory.Text

/-- Texts without carriage returns have no line ends to replace. -/
theorem unifyLineEnds_eq_self {text : Text} (h : '\r' ∉ text) : unifyLineEnds text = text := by
  induction text with
  | nil => rfl
  | cons c rest ih =>
    rw [List.mem_cons, not_or] at h
    rw [unifyLineEnds, if_neg (Ne.symm h.1), ih h.2]
    exact fun _ hc _ => h.1 hc.symm

/-! ## Cutting at line boundaries -/

/-- A character that is no line boundary belongs to the line that follows. -/
theorem lines_cons_of_not_break {c : Char} (h : isLineBreak c = false) {rest line : Text}
    {more : List Text} (hrest : lines rest = line :: more) :
    lines (c :: rest) = (c :: line) :: more := by
  rw [lines, h, hrest]
  · simp
  · rintro _ rfl
    exact absurd h (by decide)

/-- The line that a row ends with is cut at the line boundaries in the row. -/
theorem lines_append_lineFeed {row : Text} (h : '\r' ∉ row) (rest : Text) :
    lines (row ++ '\n' :: rest) = row.splitOnP isLineBreak ++ lines rest := by
  induction row with
  | nil => exact lines_break (by decide) (by decide) rest
  | cons c row ih =>
    rw [List.mem_cons, not_or] at h
    have ih := ih h.2
    rw [List.cons_append, List.splitOnP_cons_eq_if_modifyHead]
    cases hc : isLineBreak c with
    | true => rw [lines_break hc (Ne.symm h.1), ih, if_pos rfl, List.cons_append]
    | false =>
      obtain ⟨piece, pieces, hpieces⟩ :=
        List.exists_cons_of_ne_nil (List.splitOnP_ne_nil isLineBreak row)
      rw [hpieces, List.cons_append] at ih
      rw [lines_cons_of_not_break hc ih, if_neg (by simp), hpieces]
      rfl

/-- The first row is written with a line feed behind it, and then the others. -/
theorem unlines_cons (row : Text) (rows : List Text) :
    unlines (row :: rows) = row ++ '\n' :: unlines rows := by
  rw [unlines, List.flatMap_cons, List.append_assoc, List.singleton_append, ← unlines]

/-- Rows come back cut at the line boundaries in them. -/
theorem lines_unlines {rows : List Text} (h : ∀ row ∈ rows, '\r' ∉ row) :
    lines (unlines rows) = rows.flatMap (List.splitOnP isLineBreak) := by
  induction rows with
  | nil => rfl
  | cons row rows ih =>
    rw [List.forall_mem_cons] at h
    rw [unlines_cons, lines_append_lineFeed h.1, ih h.2, List.flatMap_cons]

/-- Rows without carriage returns are written without any. -/
theorem not_mem_unlines {rows : List Text} (h : ∀ row ∈ rows, '\r' ∉ row) :
    '\r' ∉ unlines rows := by
  intro hmem
  obtain ⟨row, hrow, hc⟩ := List.mem_flatMap.1 hmem
  rcases List.mem_append.1 hc with hc | hc
  · exact h row hrow hc
  · exact absurd hc (by decide)

/-! ## Rows that are not cut -/

/-- A list is cut into one piece more than it has places to cut at. -/
theorem length_splitOnP {α : Type} (p : α → Bool) (xs : List α) :
    (xs.splitOnP p).length = xs.countP p + 1 := by
  induction xs with
  | nil => simp
  | cons x xs ih =>
    rw [List.splitOnP_cons_eq_if_modifyHead, List.countP_cons]
    split <;> simp [ih]

/-- Lists stay as they are, all together, exactly if there is no place to cut at in any. -/
theorem flatMap_splitOnP_eq_self_iff {α : Type} {p : α → Bool} {xss : List (List α)} :
    xss.flatMap (List.splitOnP p) = xss ↔ ∀ xs ∈ xss, ∀ x ∈ xs, p x = false := by
  constructor
  · intro h
    have hlength := congrArg List.length h
    simp only [List.length_flatMap, length_splitOnP, List.sum_map_add, List.map_const',
      List.sum_replicate, smul_eq_mul, mul_one, Nat.add_eq_right] at hlength
    intro xs hxs x hx
    have hnone := List.sum_eq_zero_iff.1 hlength _ (List.mem_map_of_mem hxs)
    simpa using List.countP_eq_zero.1 hnone x hx
  · intro h
    induction xss with
    | nil => rfl
    | cons xs xss ih =>
      rw [List.forall_mem_cons] at h
      rw [List.flatMap_cons, List.splitOnP_eq_singleton h.1, ih h.2, List.singleton_append]

end StorageInventory.Text
