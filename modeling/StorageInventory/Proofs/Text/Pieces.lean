import Mathlib.Data.List.Infix
import Mathlib.Tactic
import StorageInventory.Text.Basic

/-!
# Fields and pieces

Cutting a text at a character is undone by joining its fields, and replacing pieces of a text
changes nothing if there is no such piece.
-/

namespace StorageInventory.Text

/-!
## Fields

`fields` cuts a text at every occurrence of one character, as `List.splitOn` does, and to put the
character back between the fields gives the text again.  So the fields of a text that was put
together are its parts, and one text begins with all fields of another exactly if it begins with
that text and then ends or goes on behind the character.

* `fields_append`, `fields_intercalate` — the fields of a text that was put together,
* `intercalate_fields` — the text that the fields were cut from,
* `fields_prefix_iff` — beginning with the fields of a text.
-/

variable {separator : Char}

/-- Fields are the pieces that the library cuts a list into. -/
theorem fields_eq_splitOn (separator : Char) (text : Text) :
    fields separator text = text.splitOn separator := by
  induction text with
  | nil => simp [fields]
  | cons c rest ih =>
    obtain ⟨field, more, hrest⟩ :=
      List.exists_cons_of_ne_nil (List.splitOn_ne_nil separator rest)
    rw [fields, List.splitOn_cons_eq_if_modifyHead, ih, hrest]
    by_cases hc : c = separator <;> simp [hc]

/-- To cut a text at a separator is to cut what stands on either side of one. -/
theorem fields_append (separator : Char) (a b : Text) :
    fields separator (a ++ separator :: b) = fields separator a ++ fields separator b := by
  simp only [fields_eq_splitOn, List.splitOn_append_cons_self]

/-- A text without the separator is its only field. -/
theorem fields_of_not_mem {text : Text} (h : separator ∉ text) :
    fields separator text = [text] := by
  rw [fields_eq_splitOn, List.splitOn_eq_singleton h]

/-- Parts without the separator are the fields of the text that has them. -/
theorem fields_intercalate {parts : List Text} (hparts : ∀ part ∈ parts, separator ∉ part)
    (hne : parts ≠ []) : fields separator ([separator].intercalate parts) = parts := by
  rw [fields_eq_splitOn, List.splitOn_intercalate separator hparts hne]

/-- The fields give the text again. -/
theorem intercalate_fields (separator : Char) (text : Text) :
    [separator].intercalate (fields separator text) = text := by
  rw [fields_eq_splitOn, List.intercalate_splitOn]

/-- Two lists that are not empty are joined by a separator between what each is joined to. -/
theorem intercalate_append {separator : Text} {front back : List Text} (hfront : front ≠ [])
    (hback : back ≠ []) :
    separator.intercalate (front ++ back) =
      separator.intercalate front ++ (separator ++ separator.intercalate back) := by
  induction front with
  | nil => exact absurd rfl hfront
  | cons part front ih =>
    cases front with
    | nil =>
      rw [List.singleton_append, List.intercalate_cons_of_ne_nil hback, List.intercalate_singleton,
        List.append_assoc]
    | cons next front =>
      rw [List.cons_append, List.intercalate_cons_of_ne_nil (by simp), ih (by simp),
        List.intercalate_cons_cons]
      simp only [List.append_assoc]

/-- The fields of a text are the first ones of another if that is the same text, or goes on with a
separator behind it. -/
theorem fields_prefix_iff {a b : Text} :
    fields separator a <+: fields separator b ↔ b = a ∨ a ++ [separator] <+: b := by
  constructor
  · rintro ⟨more, hmore⟩
    have hb := intercalate_fields separator b
    rw [← hmore] at hb
    cases more with
    | nil =>
      rw [List.append_nil, intercalate_fields] at hb
      exact .inl hb.symm
    | cons field more =>
      rw [intercalate_append (fields_ne_nil separator a) (by simp), intercalate_fields,
        ← List.append_assoc] at hb
      exact .inr ⟨_, hb⟩
  · rintro (rfl | ⟨rest, rfl⟩)
    · exact List.prefix_refl _
    · rw [List.append_assoc, List.singleton_append, fields_append]
      exact List.prefix_append _ _

/-!
## Pieces of texts

`includes` looks for a piece anywhere in a text and `replaceAll` removes it.  A piece that does not
hold a separator never spans one, so a rendered line can be searched part by part.

* `includes_iff` — a piece is included if it is a contiguous part,
* `includes_append_cons` — a piece without the character `c` lies on one side of it,
* `replaceAll_append`, `replaceAll_cons` — replacing from the front,
* `replaceAll_eq_self_iff` — a text stays as it is exactly where the piece does not occur, if what
  takes its place is shorter,
* `isPrefixOf_of_startApart` — a text begins with one of two pieces at most, if they begin
  differently.
-/

/-- A piece is included in a text if it is a contiguous part of it. -/
theorem includes_iff {piece text : Text} : includes piece text = true ↔ piece <:+: text := by
  induction text with
  | nil => simp [includes, List.infix_nil]
  | cons c rest ih =>
    rw [includes, Bool.or_eq_true, List.isPrefixOf_iff_prefix, ih, List.infix_cons_iff]

/-- A piece that does not hold a character lies before or behind it. -/
theorem infix_append_cons {piece a b : Text} {c : Char} (hc : c ∉ piece) (hne : piece ≠ []) :
    piece <:+: a ++ c :: b ↔ piece <:+: a ∨ piece <:+: b := by
  constructor
  · rintro ⟨before, after, heq⟩
    -- the piece starts in front of the separator, and ends there too, or it starts behind it
    rw [List.append_assoc, List.append_eq_append_iff] at heq
    rcases heq with ⟨mid, rfl, htail⟩ | ⟨mid, rfl, htail⟩
    · rw [List.append_eq_append_iff] at htail
      rcases htail with ⟨last, rfl, -⟩ | ⟨last, rfl, hcons⟩
      · exact .inl ⟨before, last, by simp⟩
      · cases last with
        | nil => exact .inl ⟨before, [], by simp⟩
        | cons d last =>
          obtain ⟨rfl, -⟩ := List.cons.inj hcons
          exact absurd (by simp) hc
    · cases mid with
      | nil =>
        obtain ⟨d, ds, rfl⟩ := List.exists_cons_of_ne_nil hne
        obtain ⟨rfl, -⟩ := List.cons.inj htail
        exact absurd (by simp) hc
      | cons d mid =>
        obtain ⟨rfl, rfl⟩ := List.cons.inj htail
        exact .inr ⟨mid, after, by simp⟩
  · rintro (⟨before, after, rfl⟩ | ⟨before, after, rfl⟩)
    · exact ⟨before, after ++ c :: b, by simp⟩
    · exact ⟨a ++ c :: before, after, by simp⟩

/-- A piece without the character `c` is included on one side of it or on the other. -/
theorem includes_append_cons {piece : Text} {c : Char} (hc : c ∉ piece) (hne : piece ≠ [])
    (a b : Text) : includes piece (a ++ c :: b) = (includes piece a || includes piece b) := by
  rw [Bool.eq_iff_iff, Bool.or_eq_true, includes_iff, includes_iff, includes_iff,
    infix_append_cons hc hne]

/-- A piece is not included in a text that lacks one of its characters. -/
theorem includes_eq_false_of_not_mem {piece text : Text} {c : Char} (hc : c ∈ piece)
    (h : c ∉ text) : includes piece text = false := by
  rw [← Bool.not_eq_true, includes_iff]
  exact fun hin => h (hin.subset hc)

/-- What the end of a text includes, the text includes. -/
theorem includes_append_left {piece : Text} (a : Text) {b : Text} (h : includes piece b = true) :
    includes piece (a ++ b) = true := by
  rw [includes_iff] at h ⊢
  exact h.trans (List.suffix_append a b).isInfix

/-- What the beginning of a text includes, the text includes. -/
theorem includes_append_right {piece a : Text} (h : includes piece a = true) (b : Text) :
    includes piece (a ++ b) = true := by
  rw [includes_iff] at h ⊢
  exact h.trans (List.prefix_append a b).isInfix

/-- Nothing is replaced where the piece does not occur. -/
theorem replaceAll_eq_self {old text : Text} (h : includes old text = false) (new : Text) :
    replaceAll old new text = text := by
  rw [replaceAll]
  induction text with
  | nil => simp [replaceFrom]
  | cons c rest ih =>
    rw [includes, Bool.or_eq_false_iff] at h
    rw [replaceFrom, if_neg (by simp [h.1]), ih h.2]

/-- A text begins with each of its beginnings. -/
theorem isPrefixOf_append (a b : Text) : a.isPrefixOf (a ++ b) = true := by
  rw [List.isPrefixOf_iff_prefix]
  exact List.prefix_append a b

/-- Characters that are skipped are dropped without being looked at. -/
theorem replaceFrom_append (old new skipped rest : Text) :
    replaceFrom old new skipped.length (skipped ++ rest) = replaceFrom old new 0 rest := by
  induction skipped with
  | nil => rfl
  | cons c skipped ih => exact ih

/-- A piece in front is replaced, and then what is behind it. -/
theorem replaceAll_append {old : Text} (hne : old ≠ []) (new rest : Text) :
    replaceAll old new (old ++ rest) = new ++ replaceAll old new rest := by
  obtain ⟨c, more, rfl⟩ := List.exists_cons_of_ne_nil hne
  rw [replaceAll, List.cons_append, replaceFrom, ← List.cons_append, if_pos (isPrefixOf_append _ _),
    List.length_cons, Nat.add_sub_cancel, replaceFrom_append, replaceAll]

/-- A character stays if the piece does not begin with it there. -/
theorem replaceAll_cons {old : Text} {c : Char} {rest : Text}
    (h : old.isPrefixOf (c :: rest) = false) (new : Text) :
    replaceAll old new (c :: rest) = c :: replaceAll old new rest := by
  rw [replaceAll, replaceFrom, if_neg (by simp [h]), replaceAll]

/-- Replacing by something no longer never lengthens a text. -/
theorem length_replaceAll_le {old new : Text} (hne : old ≠ []) (hlength : new.length ≤ old.length)
    (text : Text) : (replaceAll old new text).length ≤ text.length := by
  -- a piece is taken off whole, so the induction is on the length
  induction hn : text.length using Nat.strong_induction_on generalizing text with
  | _ n ih =>
    subst hn
    cases text with
    | nil => simp [replaceAll, replaceFrom]
    | cons c rest =>
      cases hprefix : old.isPrefixOf (c :: rest) with
      | true =>
        obtain ⟨behind, hbehind⟩ := List.isPrefixOf_iff_prefix.1 hprefix
        have hpos := List.length_pos_of_ne_nil hne
        rw [← hbehind, List.length_append] at ih ⊢
        have hle := ih behind.length (by omega) behind rfl
        rw [replaceAll_append hne, List.length_append]
        omega
      | false =>
        rw [replaceAll_cons hprefix]
        exact Nat.succ_le_succ (ih rest.length (Nat.lt_succ_self _) rest rfl)

/-- A text with the piece in it gets shorter if the piece is longer than what takes its place. -/
theorem length_replaceAll_lt {old new text : Text} (hlength : new.length < old.length)
    (h : includes old text = true) : (replaceAll old new text).length < text.length := by
  have hne : old ≠ [] := List.ne_nil_of_length_pos (by omega)
  induction text with
  | nil => simp [includes, hne] at h
  | cons c rest ih =>
    cases hprefix : old.isPrefixOf (c :: rest) with
    | true =>
      obtain ⟨behind, hbehind⟩ := List.isPrefixOf_iff_prefix.1 hprefix
      have hle := length_replaceAll_le hne hlength.le behind
      rw [← hbehind, replaceAll_append hne, List.length_append, List.length_append]
      omega
    | false =>
      rw [includes, hprefix, Bool.false_or] at h
      rw [replaceAll_cons hprefix]
      exact Nat.succ_lt_succ (ih h)

/-- A text stays as it is exactly where the piece does not occur. -/
theorem replaceAll_eq_self_iff {old new text : Text} (hlength : new.length < old.length) :
    replaceAll old new text = text ↔ includes old text = false := by
  refine ⟨fun h => ?_, fun h => replaceAll_eq_self h new⟩
  rw [← Bool.not_eq_true]
  intro hin
  have hlt := length_replaceAll_lt hlength hin
  rw [h] at hlt
  exact lt_irrefl _ hlt

/-- The texts begin with characters that differ. -/
def startApart : Text → Text → Bool
  | c :: _, d :: _ => c != d
  | _, _ => false

/-- Texts that start apart are not both at the front of a text. -/
theorem isPrefixOf_of_startApart {a b : Text} (h : startApart a b = true) {text : Text}
    (ha : a.isPrefixOf text = true) : b.isPrefixOf text = false := by
  rw [← Bool.not_eq_true]
  intro hb
  rw [List.isPrefixOf_iff_prefix] at ha hb
  obtain ⟨s, rfl⟩ := ha
  obtain ⟨t, heq⟩ := hb
  cases a with
  | nil => simp [startApart] at h
  | cons c a =>
    cases b with
    | nil => simp [startApart] at h
    | cons d b =>
      obtain ⟨rfl, -⟩ := List.cons.inj heq
      simp [startApart] at h

end StorageInventory.Text
