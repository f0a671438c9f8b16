import Mathlib.Tactic
import StorageInventory.Number.Numeral
import StorageInventory.Proofs.Text.Words

/-!
# Reading back written numbers

A natural number is written with ASCII digits and without a sign.  Both readers of numerals take
such a text for what it is: the whole one up to its limit of digits, and the decimal one as an exact
ratio that has not been rounded yet.

* `takeDigits_append` — a run of ASCII digits is taken up to the first other character,
* `readInteger_ofNat` — a written number is read back,
* `readBinary64_ofNat` — as a decimal it is the number itself, rounded once.
-/

namespace StorageInventory.Number

open Text

/-- A text of ASCII digits. -/
def IsDigits (text : Text) : Prop := ∀ c ∈ text, c.isDigit = true

instance : DecidablePred IsDigits := fun text =>
  decidable_of_iff (text.all Char.isDigit = true) List.all_eq_true

/-- The value of an ASCII digit. -/
def digitValue (c : Char) : Nat := c.toNat - 48

/-- The digits from zero to nine are consecutive code points. -/
theorem toNat_of_isDigit {c : Char} (h : c.isDigit = true) : 48 ≤ c.toNat ∧ c.toNat ≤ 57 := by
  simp only [Char.isDigit, Bool.and_eq_true, decide_eq_true_eq, ge_iff_le] at h
  exact ⟨h.1, h.2⟩

/-- The digits from zero to nine have their values. -/
theorem decimalDigit?_of_isDigit {c : Char} (h : c.isDigit = true) :
    decimalDigit? c = some (digitValue c) := by
  have hc := toNat_of_isDigit h
  rw [decimalDigit?, decimalZeros, offsetInRun, if_neg (by omega), if_pos (by omega)]
  rfl

/-- A digit is no blank. -/
theorem isBlank_of_isDigit {c : Char} (h : c.isDigit = true) : isBlank c = false := by
  have hc := toNat_of_isDigit h
  simp only [isBlank, Bool.or_eq_false_iff, Bool.and_eq_false_iff, beq_eq_false_iff_ne,
    decide_eq_false_iff_not]
  omega

/-! ## Written numbers -/

/-- A number is written in digits. -/
theorem isDigits_ofNat (n : Nat) : IsDigits (ofNat n) :=
  fun _ hc => Nat.isDigit_of_mem_toDigits (by decide) (by decide) hc

/-- A number has a digit. -/
theorem ofNat_ne_nil (n : Nat) : ofNat n ≠ [] := Nat.toDigits_ne_nil

/-- A number is a word. -/
theorem isWord_ofNat (n : Nat) : IsWord (ofNat n) :=
  ⟨ofNat_ne_nil n, fun c hc => isBlank_of_isDigit (isDigits_ofNat n c hc)⟩

/-- The digits of a written number write it. -/
theorem ofDigits_ofNat (n : Nat) : ofDigits ((ofNat n).map digitValue) = n := by
  rw [ofDigits, List.foldl_map]
  have h := Nat.ofDigitChars_ten_toDigits (n := n)
  rw [Nat.ofDigitChars_eq_foldl] at h
  exact h

/-! ## Reading digits -/

/-- What ends a run of digits: the end of the text, or neither a digit nor an underscore. -/
def EndsDigits (rest : Text) : Prop := ∀ c ∈ rest.head?, decimalDigit? c = none ∧ c ≠ '_'

/-- The digits end where the text does. -/
theorem endsDigits_nil : EndsDigits [] := by simp [EndsDigits]

/-- A digit behind a digit goes on with the run, and anything but an underscore ends it. -/
theorem takeMoreDigits_cons {c : Char} (hc : c ≠ '_') (rest : Text) :
    takeMoreDigits (c :: rest) =
      match decimalDigit? c with
      | none => ([], c :: rest)
      | some v => (takeMoreDigits rest).map (v :: ·) id :=
  takeMoreDigits.eq_3 c rest fun _ _ h _ => hc h

/-- Nothing more is taken where the digits end. -/
theorem takeMoreDigits_of_endsDigits {rest : Text} (h : EndsDigits rest) :
    takeMoreDigits rest = ([], rest) := by
  cases rest with
  | nil => rfl
  | cons c rest =>
    have hc := h c (by simp)
    rw [takeMoreDigits_cons hc.2, hc.1]

/-- Digits are taken to the point where they end. -/
theorem takeMoreDigits_append {digits rest : Text} (hd : IsDigits digits) (hr : EndsDigits rest) :
    takeMoreDigits (digits ++ rest) = (digits.map digitValue, rest) := by
  induction digits with
  | nil => exact takeMoreDigits_of_endsDigits hr
  | cons c digits ih =>
    have hc := hd c (by simp)
    have hne : c ≠ '_' := by
      rintro rfl
      exact absurd hc (by decide)
    rw [List.cons_append, takeMoreDigits_cons hne, decimalDigit?_of_isDigit hc,
      ih fun d hd' => hd d (by simp [hd'])]
    rfl

/-- A run of digits is taken up to the first character that is none. -/
theorem takeDigits_append {digits rest : Text} (hd : IsDigits digits) (hr : EndsDigits rest) :
    takeDigits (digits ++ rest) = (digits.map digitValue, rest) := by
  cases digits with
  | nil =>
    cases rest with
    | nil => rfl
    | cons c rest =>
      have hc := (hr c (by simp)).1
      rw [List.nil_append, takeDigits, hc]
      rfl
  | cons c digits =>
    rw [List.cons_append, takeDigits, decimalDigit?_of_isDigit (hd c (by simp)),
      takeMoreDigits_append (fun d hd' => hd d (by simp [hd'])) hr]
    rfl

/-- A text of digits is taken as a whole. -/
theorem takeDigits_digits {digits : Text} (hd : IsDigits digits) :
    takeDigits digits = (digits.map digitValue, []) := by
  simpa using takeDigits_append hd endsDigits_nil

/-- A digit is no sign. -/
theorem takeSign_of_isDigit {c : Char} (h : c.isDigit = true) (rest : Text) :
    takeSign (c :: rest) = (false, c :: rest) := by
  have hc := toNat_of_isDigit h
  unfold takeSign
  split
  · next heq =>
    obtain ⟨rfl, -⟩ := List.cons.inj heq
    exact absurd h (by decide)
  · next heq =>
    obtain ⟨rfl, -⟩ := List.cons.inj heq
    exact absurd h (by decide)
  · rfl

/-- A text without blanks has none around it. -/
theorem trimNumeral_eq_self {text : Text} (h : ∀ c ∈ text, isBlank c = false) :
    trimNumeral text = text := by
  have hout : ∀ c ∈ text, isOuterBlank c = false := fun c hc => by simp [isOuterBlank, h c hc]
  have hself : ∀ t : Text, (∀ c ∈ t, isOuterBlank c = false) → t.dropWhile isOuterBlank = t := by
    intro t ht
    cases t with
    | nil => rfl
    | cons c t => rw [List.dropWhile_cons_of_neg (by simp [ht c (by simp)])]
  rw [trimNumeral, hself text hout, hself text.reverse fun c hc => hout c (List.mem_reverse.1 hc),
    List.reverse_reverse]

/-- A written number is read back, unless it has too many digits. -/
theorem readInteger_ofNat {n : Nat} (h : (ofNat n).length ≤ digitLimit) :
    readInteger (ofNat n) = .ok n := by
  have hd := isDigits_ofNat n
  have hn := ofDigits_ofNat n
  have htrim := trimNumeral_eq_self (isWord_ofNat n).2
  have htake := takeDigits_digits hd
  obtain ⟨c, cs, hcs⟩ := List.exists_cons_of_ne_nil (ofNat_ne_nil n)
  rw [hcs] at hd hn htrim htake h ⊢
  have hsign := takeSign_of_isDigit (hd c (by simp)) cs
  rw [readInteger, htrim, hsign]
  simp only [htake, List.map_cons] at hn ⊢
  rw [if_neg (by simpa using h), hn]
  simp

/-! ## Reading decimals -/

/-- A text that starts with a digit is none of the words for numbers that are not finite. -/
theorem asciiLower_head_of_isDigit {c : Char} (h : c.isDigit = true) (cs : Text) (word : Text)
    (hw : (word.headD '0').isDigit = false) : asciiLower (c :: cs) ≠ word := by
  have hc := toNat_of_isDigit h
  -- only capital letters have another lower case
  have hlow : c.toLower = c := by
    refine dif_neg fun hupper => ?_
    have : 65 ≤ c.toNat := hupper.1
    omega
  rintro rfl
  rw [asciiLower, List.map_cons, hlow, List.headD_cons, h] at hw
  exact Bool.noConfusion hw

/-- A text that starts with a digit is read as an unsigned decimal. -/
theorem readBinary64_of_isDigit {c : Char} {cs : Text} (h : c.isDigit = true)
    (hword : ∀ d ∈ cs, isBlank d = false) :
    readBinary64 (c :: cs) = (readDecimal (c :: cs)).map (Decimal.toBinary64 false) := by
  have htrim : trimNumeral (c :: cs) = c :: cs := by
    apply trimNumeral_eq_self
    intro d hd
    rcases List.mem_cons.1 hd with rfl | hd
    · exact isBlank_of_isDigit h
    · exact hword d hd
  have hinf := asciiLower_head_of_isDigit h cs "inf".toList (by decide)
  have hinfinity := asciiLower_head_of_isDigit h cs "infinity".toList (by decide)
  have hnan := asciiLower_head_of_isDigit h cs "nan".toList (by decide)
  simp only [readBinary64, htrim, takeSign_of_isDigit h, hinf, hinfinity, hnan, decide_false,
    Bool.or_self, Bool.false_eq_true, if_false]

/-- A text of digits is read as they stand, without an exponent. -/
theorem readDecimal_digits {digits : Text} (hd : IsDigits digits) (hne : digits ≠ []) :
    readDecimal digits = some ⟨digits.map digitValue, 0⟩ := by
  obtain ⟨c, cs, rfl⟩ := List.exists_cons_of_ne_nil hne
  rw [readDecimal, takeDigits_digits hd]
  simp [readExponent]

/-- A written number of at most 400 digits is, as a decimal, the number rounded once. -/
theorem readBinary64_ofNat {n : Nat} (h : (ofNat n).length ≤ 400) :
    readBinary64 (ofNat n) =
      some (if n = 0 then .finite false 0 Binary64.minExponent
        else Binary64.ofRatio false n 1) := by
  have hd := isDigits_ofNat n
  have hn := ofDigits_ofNat n
  have hdec := readDecimal_digits hd (ofNat_ne_nil n)
  obtain ⟨c, cs, hcs⟩ := List.exists_cons_of_ne_nil (ofNat_ne_nil n)
  have hread : readBinary64 (ofNat n) = (readDecimal (ofNat n)).map (Decimal.toBinary64 false) := by
    rw [hcs] at hd ⊢
    exact readBinary64_of_isDigit (hd c (by simp))
      fun d hd' => isBlank_of_isDigit (hd d (by simp [hd']))
  rw [hread, hdec, Option.map_some, Decimal.toBinary64]
  simp only [hn]
  congr 1
  split
  · rfl
  · rw [if_neg (by omega), if_neg (by omega)]
    simp [tenTo]

end StorageInventory.Number
