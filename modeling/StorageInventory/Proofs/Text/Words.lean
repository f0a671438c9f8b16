import Mathlib.Data.List.TakeWhile
import Mathlib.Tactic
import StorageInventory.Text.Basic

/-!
# Words and margins

Every pass looks at a line in two ways: it drops the blanks at both ends, and it cuts what is left
into words.  The two agree, since the blanks that are dropped belong to no word.

* `tokens_append_blank` — a blank separates words, whatever stands on either side of it,
* `tokens_word` — a text without blanks is one word,
* `mem_tokens` — a word is not empty and has no blank,
* `exists_eq_append_trim` — trimming takes blanks off both ends and nothing else,
* `tokens_trim` — and so it keeps the words,
* `trim_label_append` — a line that begins with a label keeps it, and what follows the label is
  trimmed at its end only.

The first equation carries the others: the words of a rendered line are read off by splitting it at
its blanks.
-/

namespace StorageInventory.Text

/-- All characters are blank. -/
def IsMargin (text : Text) : Prop := ∀ c ∈ text, isBlank c = true

/-- A text that is one word: not empty and without blanks. -/
def IsWord (text : Text) : Prop := text ≠ [] ∧ ∀ c ∈ text, isBlank c = false

theorem IsWord.ne_nil {w : Text} (h : IsWord w) : w ≠ [] := h.1

/-- A word is made of characters that are not blank. -/
theorem isWord_cons {c : Char} {rest : Text} :
    IsWord (c :: rest) ↔ isBlank c = false ∧ ∀ d ∈ rest, isBlank d = false := by
  simp [IsWord]

instance (text : Text) : Decidable (IsWord text) :=
  decidable_of_iff (text ≠ [] ∧ text.all (fun c => !isBlank c) = true) (by simp [IsWord])

instance (text : Text) : Decidable (IsMargin text) :=
  decidable_of_iff (text.all isBlank = true) List.all_eq_true

/-! ## The words of a text -/

/-- The space is a blank. -/
theorem isBlank_space : isBlank ' ' = true := by decide

@[simp] theorem tokens_nil : tokens [] = [] := rfl

/-- A text that starts with a character that is not blank has a token. -/
theorem tokens_ne_nil {c : Char} (h : isBlank c = false) (rest : Text) :
    tokens (c :: rest) ≠ [] := by
  rw [tokens, if_neg (by simp [h])]
  unfold consToken
  split
  · split <;> simp
  · simp

/-- A blank separates the words before it from those after it. -/
theorem tokens_append_blank (a : Text) {c : Char} (h : isBlank c = true) (b : Text) :
    tokens (a ++ c :: b) = tokens a ++ tokens b := by
  induction a with
  | nil => simp [tokens_blank_cons h]
  | cons x a ih =>
    rw [List.cons_append]
    by_cases hx : isBlank x = true
    · rw [tokens_blank_cons hx, tokens_blank_cons hx, ih]
    · have hx : isBlank x = false := by simpa using hx
      rw [tokens, if_neg (by simp [hx]), ih, tokens, if_neg (by simp [hx])]
      cases a with
      | nil => cases hb : tokens b <;> simp [consToken, h]
      | cons d a =>
        cases ht : tokens (d :: a) with
        | nil =>
          -- without a word in `a` its first character is blank, and `x` stays alone
          have hd : isBlank d = true := by
            by_contra hd
            exact tokens_ne_nil (by simpa using hd) a ht
          cases hb : tokens b <;> simp [consToken, hd]
        | cons t ts =>
          by_cases hd : isBlank d = true <;> simp [consToken, hd]

/-- A text without blanks is one word. -/
theorem tokens_word {w : Text} (h : IsWord w) : tokens w = [w] := by
  induction w with
  | nil => exact absurd rfl h.1
  | cons c w ih =>
    have hc := isWord_cons.1 h
    cases w with
    | nil => exact tokens_singleton hc.1
    | cons d w =>
      have hd : isBlank d = false := hc.2 d (by simp)
      have hw : IsWord (d :: w) := ⟨by simp, hc.2⟩
      rw [tokens, if_neg (by simp [hc.1]), ih hw, consToken]
      simp [hd]

/-- A word in front of a blank is the first word. -/
theorem tokens_word_blank {w : Text} (h : IsWord w) {c : Char} (hc : isBlank c = true)
    (rest : Text) : tokens (w ++ c :: rest) = w :: tokens rest := by
  rw [tokens_append_blank w hc, tokens_word h, List.singleton_append]

/-- A word is not empty and has no blank. -/
theorem mem_tokens {text w : Text} (h : w ∈ tokens text) : IsWord w := by
  induction text generalizing w with
  | nil => simp at h
  | cons c rest ih =>
    rw [tokens] at h
    split at h
    · exact ih h
    · next hc =>
      have hc : isBlank c = false := by simpa using hc
      unfold consToken at h
      split at h
      -- the character is a token of its own in front of a blank, and joins the next one otherwise
      · next d more token others heq =>
        split at h
        · rcases List.mem_cons.1 h with rfl | h
          · exact isWord_cons.2 ⟨hc, by simp⟩
          · exact ih (heq ▸ h)
        · rcases List.mem_cons.1 h with rfl | h
          · exact isWord_cons.2 ⟨hc, (ih (heq ▸ List.mem_cons_self)).2⟩
          · exact ih (heq ▸ List.mem_cons_of_mem _ h)
      · rcases List.mem_cons.1 h with rfl | h
        · exact isWord_cons.2 ⟨hc, by simp⟩
        · exact ih h

/-- Blanks in front of a text do not change its tokens. -/
theorem tokens_margin_append {m : Text} (h : IsMargin m) (rest : Text) :
    tokens (m ++ rest) = tokens rest := by
  induction m with
  | nil => rfl
  | cons c m ih =>
    rw [List.cons_append, tokens_blank_cons (h c (by simp)), ih fun d hd => h d (by simp [hd])]

/-- Blanks at the end of a text do not change its tokens. -/
theorem tokens_append_margin (text : Text) {m : Text} (h : IsMargin m) :
    tokens (text ++ m) = tokens text := by
  cases m with
  | nil => simp
  | cons c m =>
    have hm := tokens_margin_append (m := m) (fun d hd => h d (by simp [hd])) []
    rw [tokens_append_blank text (h c (by simp))]
    simpa using hm

/-! ## Trimming -/

/-- Trimming the start takes away blanks only. -/
theorem exists_eq_append_trimStart (text : Text) :
    ∃ m, IsMargin m ∧ text = m ++ trimStart text :=
  ⟨text.takeWhile isBlank, fun _ h => List.mem_takeWhile_imp h,
    (List.takeWhile_append_dropWhile).symm⟩

/-- Trimming the end takes away blanks only. -/
theorem exists_eq_trimEnd_append (text : Text) :
    ∃ m, IsMargin m ∧ text = trimEnd text ++ m := by
  induction text with
  | nil => exact ⟨[], by simp [IsMargin], rfl⟩
  | cons c rest ih =>
    obtain ⟨m, hm, heq⟩ := ih
    rw [trimEnd]
    split
    · next hnil =>
      rw [hnil, List.nil_append] at heq
      split
      · next hc => exact ⟨c :: rest, by simpa [IsMargin, hc, heq] using hm, rfl⟩
      · exact ⟨m, hm, by rw [List.singleton_append, ← heq]⟩
    · exact ⟨m, hm, by rw [List.cons_append, ← heq]⟩

/-- Trimming takes blanks off both ends and nothing else. -/
theorem exists_eq_append_trim (text : Text) :
    ∃ before after, IsMargin before ∧ IsMargin after ∧ text = before ++ trim text ++ after := by
  obtain ⟨before, hb, hstart⟩ := exists_eq_append_trimStart text
  obtain ⟨after, ha, hend⟩ := exists_eq_trimEnd_append (trimStart text)
  refine ⟨before, after, hb, ha, ?_⟩
  rw [trim, List.append_assoc, ← hend, ← hstart]

/-- Trimming keeps the words. -/
theorem tokens_trim (text : Text) : tokens (trim text) = tokens text := by
  obtain ⟨before, after, hb, ha, heq⟩ := exists_eq_append_trim text
  conv_rhs => rw [heq, tokens_append_margin _ ha, tokens_margin_append hb]

/-- Trimming does not change the last token. -/
theorem lastToken_trim (text : Text) : lastToken (trim text) = lastToken text := by
  rw [lastToken, tokens_trim, lastToken]

/-- Nothing is left of blanks that are trimmed at the end. -/
theorem trimEnd_margin {m : Text} (h : IsMargin m) : trimEnd m = [] := by
  induction m with
  | nil => rfl
  | cons c m ih =>
    rw [trimEnd, ih fun d hd => h d (by simp [hd])]
    simp [h c (by simp)]

/-- Only the end of the second of two texts is trimmed, unless nothing of it is left. -/
theorem trimEnd_append (a b : Text) :
    trimEnd (a ++ b) = if trimEnd b = [] then trimEnd a else a ++ trimEnd b := by
  induction a with
  | nil => split <;> simp_all [trimEnd]
  | cons c a ih =>
    rw [List.cons_append, trimEnd, ih]
    by_cases hb : trimEnd b = []
    · rw [if_pos hb, if_pos hb, trimEnd]
    · rw [if_neg hb, if_neg hb]
      cases a with
      | nil =>
        obtain ⟨x, xs, hx⟩ := List.exists_cons_of_ne_nil hb
        simp [hx]
      | cons d a => simp

/-- Blanks at the end make no difference to a text that is trimmed there. -/
theorem trimEnd_append_margin (text : Text) {m : Text} (h : IsMargin m) :
    trimEnd (text ++ m) = trimEnd text := by
  rw [trimEnd_append, if_pos (trimEnd_margin h)]

/-- A text whose last character is not blank is trimmed at the end already. -/
theorem trimEnd_eq_self_of_last {text : Text} {c : Char} (h : isBlank c = false) :
    trimEnd (text ++ [c]) = text ++ [c] := by
  have hc : trimEnd [c] = [c] := by simp [trimEnd, h]
  rw [trimEnd_append, hc, if_neg (by simp)]

/-- A word is trimmed at the end already. -/
theorem trimEnd_word {w : Text} (h : IsWord w) : trimEnd w = w := by
  obtain ⟨front, c, rfl⟩ := List.eq_nil_or_concat w |>.resolve_left h.1
  rw [List.concat_eq_append] at h ⊢
  exact trimEnd_eq_self_of_last (h.2 c (by simp))

/-- A text whose first character is not blank is trimmed at the start already. -/
theorem trimStart_cons_of_not_blank {c : Char} (h : isBlank c = false) (rest : Text) :
    trimStart (c :: rest) = c :: rest := by
  simp [trimStart, h]

/-- A text that is trimmed at the start does not start with a blank. -/
theorem not_blank_of_trimStart {text rest : Text} {c : Char} (h : trimStart text = c :: rest) :
    isBlank c = false := by
  rw [trimStart] at h
  have hc := List.head_dropWhile_not isBlank (l := text) (by simp [h])
  simpa [h] using hc

/-- A text is blank exactly if it has no words. -/
theorem trim_eq_nil_iff {text : Text} : trim text = [] ↔ tokens text = [] := by
  constructor
  · intro h
    rw [← tokens_trim, h, tokens_nil]
  · intro h
    obtain ⟨before, hbefore, heq⟩ := exists_eq_append_trimStart text
    cases hstart : trimStart text with
    | nil =>
      rw [trim, hstart]
      rfl
    | cons c rest =>
      -- the text would have a word that begins with `c`
      rw [heq, hstart, tokens_margin_append hbefore] at h
      exact absurd h (tokens_ne_nil (not_blank_of_trimStart hstart) rest)

/-- Blanks in front make no difference to a text that is trimmed at the start. -/
theorem trimStart_margin_append {m : Text} (h : IsMargin m) (rest : Text) :
    trimStart (m ++ rest) = trimStart rest := by
  induction m with
  | nil => rfl
  | cons c m ih =>
    rw [List.cons_append, trimStart, List.dropWhile_cons_of_pos (h c (by simp))]
    exact ih fun d hd => h d (by simp [hd])

/-- Blanks in front make no difference to a trimmed text. -/
theorem trim_margin_append {m : Text} (h : IsMargin m) (rest : Text) :
    trim (m ++ rest) = trim rest := by
  rw [trim, trimStart_margin_append h, trim]

/-- Nothing is left of blanks that are trimmed. -/
theorem trim_margin {m : Text} (h : IsMargin m) : trim m = [] := by
  simpa [trim, trimStart, trimEnd] using trim_margin_append h []

/-- Blanks at the end make no difference to a trimmed text. -/
theorem trim_append_margin (text : Text) {m : Text} (h : IsMargin m) :
    trim (text ++ m) = trim text := by
  obtain ⟨before, hb, heq⟩ := exists_eq_append_trimStart text
  cases hs : trimStart text with
  | nil =>
    rw [hs, List.append_nil] at heq
    have hall : IsMargin (text ++ m) := by
      intro c hc
      rcases List.mem_append.1 hc with hc | hc
      · exact hb c (heq ▸ hc)
      · exact h c hc
    rw [trim_margin hall, trim, hs, trimEnd]
  | cons c rest =>
    have hc := not_blank_of_trimStart hs
    rw [hs] at heq
    rw [heq, List.append_assoc, trim_margin_append hb, trim_margin_append hb, trim, trim,
      List.cons_append, trimStart_cons_of_not_blank hc, trimStart_cons_of_not_blank hc,
      ← List.cons_append, trimEnd_append_margin _ h]

/-- Trimming does at the end what trimming the end does. -/
theorem trim_trimEnd (text : Text) : trim (trimEnd text) = trim text := by
  obtain ⟨m, hm, heq⟩ := exists_eq_trimEnd_append text
  conv_rhs => rw [heq, trim_append_margin _ hm]

/-- A line that begins with a label, a word, keeps it; the rest is trimmed at its end. -/
theorem trim_label_append {label : Text} (h : IsWord label) (rest : Text) :
    trim (label ++ rest) = label ++ trimEnd rest := by
  obtain ⟨c, cs, rfl⟩ := List.exists_cons_of_ne_nil h.1
  have hc := (isWord_cons.1 h).1
  rw [trim, List.cons_append, trimStart_cons_of_not_blank hc, ← List.cons_append, trimEnd_append,
    trimEnd_word h]
  split
  · next hnil => rw [hnil, List.append_nil]
  · rfl

/-- A word is trimmed already. -/
theorem trim_word {w : Text} (h : IsWord w) : trim w = w := by
  simpa [trimEnd] using trim_label_append h []

end StorageInventory.Text
