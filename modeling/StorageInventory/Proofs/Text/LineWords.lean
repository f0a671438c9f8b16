import Mathlib.Tactic
import StorageInventory.Proofs.Text.Lines
import StorageInventory.Proofs.Text.Words

/-!
# The words of lines

Lines end at fewer characters than words do: every line boundary is a blank.  So to cut a text into
lines first, and the lines into words, gives the words of the text, and it does not matter to them
which characters the lines end with.

* `tokens_unifyLineEnds` — replacing line ends keeps the words,
* `flatMap_tokens_lines` — the words of the lines of a text are those of the text,
* `tokens_unlines` — the words of rows are those of the text that has them.

All three follow the definition that they are about, with one step for a character that is put in
front of a text, `tokens_cons_append`: it may extend the first word only if the text starts with
one.
-/

namespace StorageInventory.Text

/-- Every line boundary is a blank. -/
theorem isBlank_of_isLineBreak {c : Char} (h : isLineBreak c = true) : isBlank c = true := by
  simp only [isLineBreak, Bool.or_eq_true, Bool.and_eq_true, decide_eq_true_eq, beq_iff_eq] at h
  simp only [isBlank, Bool.or_eq_true, Bool.and_eq_true, decide_eq_true_eq, beq_iff_eq]
  omega

/-- The carriage return is a blank. -/
theorem isBlank_carriageReturn : isBlank '\r' = true := by decide

/-- The line feed is a blank. -/
theorem isBlank_lineFeed : isBlank '\n' = true := by decide

/-! ## A character in front of a text -/

/-- No word begins at the front of the text: it is empty or starts with a blank. -/
def startsBlank : Text → Bool
  | [] => true
  | c :: _ => isBlank c

/-- A character in front of a blank is a token of its own. -/
theorem tokens_cons_of_startsBlank {c : Char} {rest : Text} (hc : isBlank c = false)
    (h : startsBlank rest = true) : tokens (c :: rest) = [c] :: tokens rest := by
  rw [tokens, if_neg (by simp [hc])]
  cases rest with
  | nil => rfl
  | cons d rest =>
    rw [startsBlank] at h
    cases htokens : tokens (d :: rest) <;> simp [consToken, h]

/-- A character in front of a token belongs to it. -/
theorem tokens_cons_of_not_startsBlank {c : Char} {rest token : Text} {more : List Text}
    (hc : isBlank c = false) (h : startsBlank rest = false) (hrest : tokens rest = token :: more) :
    tokens (c :: rest) = (c :: token) :: more := by
  cases rest with
  | nil => cases h
  | cons d rest =>
    rw [startsBlank] at h
    rw [tokens, if_neg (by simp [hc]), hrest]
    simp [consToken, h]

/-- A text that does not start with a blank has a token. -/
theorem tokens_ne_nil_of_not_startsBlank {text : Text} (h : startsBlank text = false) :
    tokens text ≠ [] := by
  cases text with
  | nil => cases h
  | cons c rest => exact tokens_ne_nil h rest

/-- A character goes in front of the words of a text as in front of those of a beginning of it. -/
theorem tokens_cons_append {a b : Text} {more : List Text} (h : tokens b = tokens a ++ more)
    (hstart : startsBlank a = startsBlank b) (c : Char) :
    tokens (c :: b) = tokens (c :: a) ++ more := by
  cases hc : isBlank c with
  | true => rw [tokens_blank_cons hc, tokens_blank_cons hc, h]
  | false =>
    cases ha : startsBlank a with
    | true =>
      rw [tokens_cons_of_startsBlank hc (hstart ▸ ha), tokens_cons_of_startsBlank hc ha, h]
      rfl
    | false =>
      obtain ⟨token, others, htokens⟩ :=
        List.exists_cons_of_ne_nil (tokens_ne_nil_of_not_startsBlank ha)
      rw [htokens, List.cons_append] at h
      rw [tokens_cons_of_not_startsBlank hc (hstart ▸ ha) h,
        tokens_cons_of_not_startsBlank hc ha htokens]
      rfl

/-! ## Line ends -/

/-- Making line ends alike keeps whether a text starts with a blank. -/
theorem startsBlank_unifyLineEnds (text : Text) :
    startsBlank (unifyLineEnds text) = startsBlank text := by
  fun_cases unifyLineEnds text with
  | case1 => rfl
  | case2 rest => rfl
  | case3 c rest _ =>
    by_cases hc : c = '\r'
    · subst hc
      rfl
    · rw [if_neg hc]
      rfl

/-- Replacing line ends keeps the words. -/
theorem tokens_unifyLineEnds (text : Text) : tokens (unifyLineEnds text) = tokens text := by
  fun_induction unifyLineEnds text with
  | case1 => rfl
  | case2 rest ih =>
    rw [tokens_blank_cons isBlank_lineFeed, tokens_blank_cons isBlank_carriageReturn,
      tokens_blank_cons isBlank_lineFeed, ih]
  | case3 c rest _ ih =>
    by_cases hc : c = '\r'
    · rw [if_pos hc, hc, tokens_blank_cons isBlank_lineFeed,
        tokens_blank_cons isBlank_carriageReturn, ih]
    · have htokens : tokens (unifyLineEnds rest) = tokens rest ++ [] := by rw [List.append_nil, ih]
      rw [if_neg hc, tokens_cons_append htokens (startsBlank_unifyLineEnds rest).symm c,
        List.append_nil]

/-! ## Lines -/

/-- Only the empty text has no lines. -/
theorem lines_eq_nil_iff {text : Text} : lines text = [] ↔ text = [] := by
  fun_cases lines text <;> simp_all

/-- The first line starts as the text does. -/
theorem startsBlank_of_lines {text line : Text} {more : List Text}
    (h : lines text = line :: more) : startsBlank line = startsBlank text := by
  revert h
  fun_cases lines text with
  | case1 => intro h; cases h
  | case2 rest =>
    rintro ⟨⟩
    rfl
  | case3 c rest _ hbreak =>
    rintro ⟨⟩
    exact (isBlank_of_isLineBreak hbreak).symm
  | case4 c rest _ _ _ =>
    rintro ⟨⟩
    rfl
  | case5 c rest _ _ line more _ =>
    rintro ⟨⟩
    rfl

/-- The words of the lines of a text are those of the text. -/
theorem flatMap_tokens_lines (text : Text) : (lines text).flatMap tokens = tokens text := by
  fun_induction lines text with
  | case1 => rfl
  | case2 rest ih =>
    rw [List.flatMap_cons, ih, tokens_blank_cons isBlank_carriageReturn,
      tokens_blank_cons isBlank_lineFeed]
    rfl
  | case3 c rest _ hbreak ih =>
    rw [List.flatMap_cons, ih, tokens_blank_cons (isBlank_of_isLineBreak hbreak)]
    rfl
  | case4 c rest _ _ hlines _ =>
    rw [lines_eq_nil_iff.1 hlines]
    exact List.flatMap_singleton tokens [c]
  | case5 c rest _ _ line more hlines ih =>
    -- the character goes in front of the first line, whose words come first
    rw [hlines, List.flatMap_cons] at ih
    rw [List.flatMap_cons, tokens_cons_append ih.symm (startsBlank_of_lines hlines)]

/-- The words of rows are those of the text that has them. -/
theorem tokens_unlines (rows : List Text) : tokens (unlines rows) = rows.flatMap tokens := by
  induction rows with
  | nil => rfl
  | cons row rows ih =>
    rw [unlines_cons, tokens_append_blank row isBlank_lineFeed, ih, List.flatMap_cons]

end StorageInventory.Text
