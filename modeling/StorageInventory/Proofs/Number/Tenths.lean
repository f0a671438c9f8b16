import Mathlib.Tactic
import StorageInventory.Pass.Rows
import StorageInventory.Proofs.Number.Numerals
import StorageInventory.Proofs.Number.Rounding

/-!
# Numbers with one place behind the point

Counters are printed with one digit behind the point.  Such a number is rarely a floating-point
number, so reading it rounds, and so may scaling it.

* `readColumn_two_pow` — scaled by a power of two it is cut to the whole number it should be,
* `readColumn_thousand` — scaled by a thousand it is exact, unless it falls short.

Reading rounds by half of the last place at most.  A power of two keeps the mantissa, and the next
whole number is too far away to be reached.  The product with a thousand is rounded once more.  Its
last place is worth a thousand and twenty-four of the last places of the factor, and the second
rounding then undoes the first, except where a number lies so little above a power of two that the
last place of the product is worth half as much.
-/

namespace StorageInventory.Number

open Text Pass

/-- The text is a numeral with one place behind the point, and this is what it writes. -/
def OnePlace (text : Text) (v : ℚ) : Prop :=
  ∃ whole place, whole ≠ [] ∧ IsDigits (whole ++ [place]) ∧ text = whole ++ ['.', place] ∧
    v = (Nat.ofDigitChars 10 (whole ++ [place]) 0 : ℚ) / 10

/-- The number falls short when it is scaled by a thousand.  It lies above a power of two by so
little that the product does not reach the tenth one after it, and the floating-point number nearest
to it is two fifths of the last place below it. -/
def FallsShort (v : ℚ) : Prop :=
  ∃ j : ℕ, 2 ^ j ≤ v ∧ 1000 * v < 2 ^ (j + 10) ∧ Int.fract (v * 2 ^ (52 - j)) = 2 / 5

/-! ## Reading -/

/-- A numeral with one place is its digits with an exponent of minus one. -/
theorem readDecimal_onePlace {whole : Text} {place : Char} (hne : whole ≠ [])
    (h : IsDigits (whole ++ [place])) :
    readDecimal (whole ++ ['.', place]) = some ⟨(whole ++ [place]).map digitValue, -1⟩ := by
  have hwhole : IsDigits whole := fun c hc => h c (List.mem_append_left _ hc)
  have hplace : IsDigits [place] := fun c hc => h c (List.mem_append_right _ hc)
  have hpoint : EndsDigits ['.', place] := by
    rintro c ⟨⟩
    decide
  obtain ⟨c, cs, rfl⟩ := List.exists_cons_of_ne_nil hne
  rw [readDecimal, takeDigits_append hwhole hpoint]
  simp [takeDigits_digits hplace, readExponent]

/-- The values of digits make up the number that they are written for. -/
theorem ofDigits_map_digitValue (digits : Text) :
    ofDigits (digits.map digitValue) = Nat.ofDigitChars 10 digits 0 := by
  rw [ofDigits, List.foldl_map, Nat.ofDigitChars_eq_foldl]
  rfl

/-- It is read as a number of tenths, rounded. -/
theorem OnePlace.exists_tenths {text : Text} {v : ℚ} (h : OnePlace text v) (hv : v < 2 ^ 40) :
    ∃ n : ℕ, v = n / 10 ∧ n < 10 * 2 ^ 40 ∧
      readBinary64 text = some (Binary64.ofRatio false n 10) := by
  obtain ⟨whole, place, hne, hdigits, rfl, rfl⟩ := h
  have hbound : Nat.ofDigitChars 10 (whole ++ [place]) 0 < 10 * 2 ^ 40 := by
    rw [div_lt_iff₀ (by norm_num), mul_comm] at hv
    exact_mod_cast hv
  refine ⟨_, rfl, hbound, ?_⟩
  obtain ⟨c, cs, rfl⟩ := List.exists_cons_of_ne_nil hne
  have hword : ∀ d ∈ cs ++ ['.', place], isBlank d = false := by
    intro d hd
    have hd : d = '.' ∨ d ∈ c :: cs ++ [place] := by simp at hd ⊢; tauto
    rcases hd with rfl | hd
    · decide
    · exact isBlank_of_isDigit (hdigits d hd)
  have hread : readBinary64 (c :: cs ++ ['.', place]) =
      (readDecimal (c :: cs ++ ['.', place])).map (Decimal.toBinary64 false) :=
    readBinary64_of_isDigit (hdigits c (by simp)) hword
  rw [hread, readDecimal_onePlace (List.cons_ne_nil c cs) hdigits, Option.map_some]
  congr 1
  -- so short a numeral is read without the shortcuts for huge exponents
  have hlength : (ofNat (Nat.ofDigitChars 10 (c :: cs ++ [place]) 0)).length ≤ 14 := by
    rw [ofNat, Nat.length_toDigits_le_iff (by decide) (by decide)]
    exact hbound.trans_le (by norm_num)
  simp only [Decimal.toBinary64, ofDigits_map_digitValue]
  split_ifs with hzero hlong hsmall
  · rw [hzero]
    rfl
  · omega
  · omega
  · rfl

/-! ## The nearest floating-point number -/

/-- The number of tenths has its fifty-three bits with so many places behind the point. -/
structure HasPlaces (n k : Nat) : Prop where
  le : 13 ≤ k
  le_max : k ≤ 56
  lower : 10 * 2 ^ 52 ≤ n * 2 ^ k
  upper : n * 2 ^ k < 10 * 2 ^ 53

/-- A number of tenths of a value that is not zero and less than `2 ^ 40` has its fifty-three bits
with some count of places. -/
theorem exists_hasPlaces {n : Nat} (hne : n ≠ 0) (h : n < 10 * 2 ^ 40) : ∃ k, HasPlaces n k := by
  have hq : 16 * n / 10 ≠ 0 := by omega
  have hlog : (16 * n / 10).log2 < 44 := by
    rw [Nat.log2_lt hq]
    omega
  have hlo := Nat.log2_self_le hq
  have hhi := Nat.lt_log2_self (n := 16 * n / 10)
  generalize (16 * n / 10).log2 = a at hlog hlo hhi
  have hscale : n * 2 ^ (56 - a) = 16 * n * 2 ^ (52 - a) := by
    rw [show 56 - a = 4 + (52 - a) by omega, Nat.pow_add]
    ring
  have hpow : 2 ^ a * 2 ^ (52 - a) = 2 ^ 52 := by
    rw [← Nat.pow_add, show a + (52 - a) = 52 by omega]
  refine ⟨56 - a, by omega, by omega, ?_, ?_⟩
  · rw [hscale, ← hpow, ← Nat.mul_assoc]
    exact Nat.mul_le_mul_right _ (by omega)
  · rw [hscale, show 2 ^ 53 = 2 * (2 ^ a * 2 ^ (52 - a)) by rw [hpow]; norm_num, ← Nat.mul_assoc,
      ← Nat.mul_assoc]
    refine Nat.mul_lt_mul_of_pos_right ?_ (Nat.two_pow_pos _)
    rw [pow_succ] at hhi
    omega

namespace HasPlaces

variable {n k : Nat}

/-- So many places behind the point are the exponent of the number. -/
theorem normalizes (h : HasPlaces n k) : Binary64.Normalizes n 10 (-k) := by
  have hdown : (-(-(k : Int))).toNat = k ∧ (-(k : Int)).toNat = 0 := by omega
  have hlo := h.lower
  have hhi := h.upper
  refine ⟨?_, ?_, ?_⟩
  · have := h.le_max
    rw [Binary64.minExponent]
    omega
  · rw [hdown.1, hdown.2]
    omega
  · rw [hdown.1, hdown.2]
    omega

/-- The number of places is determined. -/
theorem unique {k' : Nat} (h : HasPlaces n k) (h' : HasPlaces n k') : k = k' := by
  have heq := (Binary64.exponentOf_eq h.normalizes).symm.trans
    (Binary64.exponentOf_eq h'.normalizes)
  omega

/-- The power of two that the places leave to the number. -/
theorem exists_mul_eq (h : HasPlaces n k) {i : Nat} (hi : i ≤ 13) :
    n * 2 ^ k = n * 2 ^ (k - i) * 2 ^ i := by
  have := h.le
  rw [Nat.mul_assoc, ← Nat.pow_add, Nat.sub_add_cancel (by omega)]

/-- The mantissa has its fifty-three bits after rounding as well. -/
theorem mantissa (h : HasPlaces n k) :
    2 ^ 52 ≤ roundDiv (n * 2 ^ k) 10 ∧ roundDiv (n * 2 ^ k) 10 < 2 ^ 53 := by
  have hlo := h.lower
  have hhi := h.upper
  have height := h.exists_mul_eq (i := 3) (by omega)
  rcases roundDiv_cases (n * 2 ^ k) 10 with ⟨heq, hhalf⟩ | ⟨heq, hhalf⟩ <;> omega

/-- The nearest number has the rounded tenths as its mantissa. -/
theorem ofRatio_eq (h : HasPlaces n k) :
    Binary64.ofRatio false n 10 = .finite false (roundDiv (n * 2 ^ k) 10) (-k) := by
  have hdown : (-(-(k : Int))).toNat = k ∧ (-(k : Int)).toNat = 0 := by omega
  refine Binary64.ofRatio_eq h.normalizes ?_ ?_ h.mantissa.2
  · rw [Binary64.maxExponent]
    omega
  · rw [hdown.1, hdown.2, Nat.pow_zero, Nat.mul_one]

/-! ## Scaling by a power of two -/

/-- Scaled by a power of two, the number is cut to the whole number it should be. -/
theorem truncate_times_two_pow (h : HasPlaces n k) {i : Nat} (hi : i ≤ 10) :
    ((Binary64.ofRatio false n 10).times (2 ^ i)).isFinite = true ∧
      ((Binary64.ofRatio false n 10).times (2 ^ i)).truncate = (n * 2 ^ i / 10 : Nat) := by
  have hle := h.le
  have hmax := h.le_max
  have hpos : 0 < 2 ^ i := Nat.two_pow_pos i
  rw [h.ofRatio_eq, Binary64.times_eq (by omega) (by omega)
    (Nat.mul_le_mul_right _ h.mantissa.1) (Nat.mul_lt_mul_of_pos_right h.mantissa.2 hpos)
    (roundDiv_mul hpos) h.mantissa.2]
  refine ⟨rfl, ?_⟩
  have hsplit : n * 2 ^ k = n * 2 ^ i * 2 ^ (k - i) := by
    rw [Nat.mul_assoc, ← Nat.pow_add, Nat.add_sub_cancel' (by omega)]
  have hfine : 10 < 2 * 2 ^ (k - i) := by
    have := Nat.pow_le_pow_right (n := 2) (by decide) (show 3 ≤ k - i by omega)
    omega
  rw [Binary64.truncate_eq, hsplit, roundDiv_div _ (by decide) hfine]

end HasPlaces

/-! ## Scaling by a thousand -/

/-- Where the last place of the product is worth as much as that of the factor and ten bits more,
rounding the product undoes rounding the factor. -/
theorem roundDiv_thousand (x : Nat) :
    roundDiv (roundDiv (x * 2 ^ 10) 10 * 1000) (2 ^ 10) = 100 * x := by
  rcases roundDiv_cases (x * 2 ^ 10) 10 with ⟨heq, hhalf⟩ | ⟨heq, hhalf⟩
  · exact roundDiv_eq (by omega) (by omega)
  · exact roundDiv_eq (by omega) (by omega)

/-- Where it is worth half of that, it does so unless two fifths of a place had been rounded. -/
theorem roundDiv_thousand_fine (x : Nat) :
    roundDiv (roundDiv (x * 2 ^ 9) 10 * 1000) (2 ^ 9) + (if x * 2 ^ 9 % 10 = 4 then 1 else 0) =
      100 * x + if x * 2 ^ 9 % 10 = 6 then 1 else 0 := by
  rcases roundDiv_cases (x * 2 ^ 9) 10 with ⟨heq, hhalf⟩ | ⟨heq, hhalf⟩
  · rw [if_neg (show ¬ x * 2 ^ 9 % 10 = 6 by omega)]
    split_ifs with hfour
    · have hround : roundDiv (roundDiv (x * 2 ^ 9) 10 * 1000) (2 ^ 9) = 100 * x - 1 := by
        apply roundDiv_eq <;> omega
      omega
    · exact roundDiv_eq (by omega) (by omega)
  · rw [if_neg (show ¬ x * 2 ^ 9 % 10 = 4 by omega)]
    split_ifs with hsix
    · exact roundDiv_eq (by omega) (by omega)
    · exact roundDiv_eq (by omega) (by omega)

/-- The fraction of scaled tenths is two fifths exactly if the remainder is four tenths. -/
theorem fract_tenths_iff (n i : ℕ) :
    Int.fract ((n : ℚ) / 10 * 2 ^ i) = 2 / 5 ↔ n * 2 ^ i % 10 = 4 := by
  have hmod := Int.fract_div_natCast_eq_div_natCast_mod (k := ℚ) (m := n * 2 ^ i) (n := 10)
  have hscale : (n : ℚ) / 10 * 2 ^ i = ((n * 2 ^ i : ℕ) : ℚ) / (10 : ℕ) := by
    push_cast
    ring
  rw [hscale, hmod, div_eq_iff (by norm_num)]
  norm_num
  exact_mod_cast Iff.rfl

/-- Falling short, told by whole numbers. -/
theorem fallsShort_tenths_iff (n : ℕ) :
    FallsShort (n / 10) ↔
      ∃ j : ℕ, 10 * 2 ^ j ≤ n ∧ 100 * n < 2 ^ (j + 10) ∧ n * 2 ^ (52 - j) % 10 = 4 := by
  refine exists_congr fun j => and_congr ?_ (and_congr ?_ (fract_tenths_iff n _))
  · rw [le_div_iff₀ (by norm_num), mul_comm]
    exact_mod_cast Iff.rfl
  · rw [show 1000 * ((n : ℚ) / 10) = 100 * n by ring]
    exact_mod_cast Iff.rfl

namespace HasPlaces

variable {n k : Nat}

/-- The product with a thousand, given by how many bits its last place is worth more. -/
theorem times_thousand (h : HasPlaces n k) {i : Nat} (hi : i ≤ 13)
    (hlo : 2 ^ 52 * 2 ^ i ≤ roundDiv (n * 2 ^ k) 10 * 1000)
    (hhi : roundDiv (n * 2 ^ k) 10 * 1000 < 2 ^ 53 * 2 ^ i)
    (hbits : roundDiv (roundDiv (n * 2 ^ k) 10 * 1000) (2 ^ i) < 2 ^ 53) :
    ((Binary64.ofRatio false n 10).times 1000).isFinite = true ∧
      ((Binary64.ofRatio false n 10).times 1000).truncate =
        (roundDiv (roundDiv (n * 2 ^ k) 10 * 1000) (2 ^ i) / 2 ^ (k - i) : Nat) := by
  have hle := h.le
  have hmax := h.le_max
  rw [h.ofRatio_eq, Binary64.times_eq (by omega) (by omega) hlo hhi rfl hbits,
    Binary64.truncate_eq]
  exact ⟨rfl, rfl⟩

/-- Where the last place of the product is worth ten bits more, it is what it should be. -/
theorem truncate_times_thousand_coarse (h : HasPlaces n k) (hcoarse : 2 ^ 62 ≤ 100 * (n * 2 ^ k)) :
    ((Binary64.ofRatio false n 10).times 1000).isFinite = true ∧
      ((Binary64.ofRatio false n 10).times 1000).truncate = (100 * n : Nat) := by
  have hle := h.le
  have hupper := h.upper
  have hcases := roundDiv_cases (n * 2 ^ k) 10
  have hwhole := h.exists_mul_eq (i := 13) le_rfl
  have hsplit := h.exists_mul_eq (i := 10) (by omega)
  have hround : roundDiv (roundDiv (n * 2 ^ k) 10 * 1000) (2 ^ 10) = 100 * n * 2 ^ (k - 10) := by
    rw [hsplit, Nat.mul_assoc 100]
    exact roundDiv_thousand _
  have hbits : roundDiv (roundDiv (n * 2 ^ k) 10 * 1000) (2 ^ 10) < 2 ^ 53 := by
    rw [hround, Nat.mul_assoc]
    omega
  obtain ⟨hfinite, htruncate⟩ := h.times_thousand (i := 10) (by omega) (by omega) (by omega) hbits
  refine ⟨hfinite, ?_⟩
  rw [htruncate, hround, Nat.mul_div_cancel _ (Nat.two_pow_pos _)]

/-- Where it is worth nine bits more, one is missing if two fifths of a place had been rounded. -/
theorem truncate_times_thousand_fine (h : HasPlaces n k) (hne : n ≠ 0)
    (hfine : 100 * (n * 2 ^ k) < 2 ^ 62) :
    ((Binary64.ofRatio false n 10).times 1000).isFinite = true ∧
      ((Binary64.ofRatio false n 10).times 1000).truncate =
        (100 * n - if n * 2 ^ k % 10 = 4 then 1 else 0 : Nat) := by
  have hle := h.le
  obtain ⟨hlo, hhi⟩ := h.mantissa
  have hcases := roundDiv_cases (n * 2 ^ k) 10
  have hwhole := h.exists_mul_eq (i := 13) le_rfl
  have hsplit := h.exists_mul_eq (i := 9) (by omega)
  have hround := roundDiv_thousand_fine (n * 2 ^ (k - 9))
  rw [← hsplit] at hround
  have hbits : roundDiv (roundDiv (n * 2 ^ k) 10 * 1000) (2 ^ 9) < 2 ^ 53 := by
    split_ifs at hround <;> omega
  obtain ⟨hfinite, htruncate⟩ := h.times_thousand (i := 9) (by omega) (by omega) (by omega) hbits
  refine ⟨hfinite, ?_⟩
  have hpos : 2 ^ 4 ≤ 2 ^ (k - 9) := Nat.pow_le_pow_right (by decide) (by omega)
  have hmul := Nat.mul_assoc 100 n (2 ^ (k - 9))
  rw [htruncate, Nat.cast_inj]
  generalize roundDiv (roundDiv (n * 2 ^ k) 10 * 1000) (2 ^ 9) = product at hround ⊢
  by_cases hshort : n * 2 ^ k % 10 = 4
  · -- the product is one place below a multiple of the places that are cut off
    rw [if_pos hshort, if_neg (by omega)] at hround
    rw [if_pos hshort]
    refine Nat.div_eq_of_lt_le ?_ ?_
    · rw [Nat.sub_mul]
      omega
    · rw [Nat.sub_add_cancel (by omega)]
      omega
  · rw [if_neg hshort] at hround
    rw [if_neg hshort, Nat.sub_zero]
    refine Nat.div_eq_of_lt_le ?_ ?_
    · split_ifs at hround <;> omega
    · rw [Nat.add_one_mul]
      split_ifs at hround <;> omega

/-- Scaled by a thousand, the number is what it should be or one less. -/
theorem truncate_times_thousand (h : HasPlaces n k) (hne : n ≠ 0) :
    ((Binary64.ofRatio false n 10).times 1000).isFinite = true ∧
      ((Binary64.ofRatio false n 10).times 1000).truncate =
        (100 * n - if 100 * (n * 2 ^ k) < 2 ^ 62 ∧ n * 2 ^ k % 10 = 4 then 1 else 0 : Nat) := by
  by_cases hfine : 100 * (n * 2 ^ k) < 2 ^ 62
  · simp only [hfine, true_and]
    exact h.truncate_times_thousand_fine hne hfine
  · rw [if_neg fun hand => hfine hand.1, Nat.sub_zero]
    exact h.truncate_times_thousand_coarse (Nat.le_of_not_lt hfine)

/-- A number with more places is five tenths, or its last place is worth enough. -/
theorem le_of_fine (h : HasPlaces n k) (hfine : 100 * (n * 2 ^ k) < 2 ^ 62)
    (hfour : n * 2 ^ k % 10 = 4) : k ≤ 52 := by
  by_contra hlt
  have hlower := h.lower
  obtain ⟨m, hm⟩ : ∃ m, n * 2 ^ k = m * 2 ^ 53 :=
    ⟨n * 2 ^ (k - 53), by rw [Nat.mul_assoc, ← Nat.pow_add, Nat.sub_add_cancel (by omega)]⟩
  rw [hm] at hfine hfour hlower
  have hfive : m = 5 := by
    clear hfour
    omega
  rw [hfive] at hfour
  exact absurd hfour (by decide)

/-- A number of tenths falls short exactly if its last place is worth little and two fifths of it
are rounded. -/
theorem fallsShort_iff (h : HasPlaces n k) (hbound : n < 10 * 2 ^ 40) :
    FallsShort (n / 10) ↔ 100 * (n * 2 ^ k) < 2 ^ 62 ∧ n * 2 ^ k % 10 = 4 := by
  rw [fallsShort_tenths_iff]
  constructor
  · rintro ⟨j, hj, hfine, hfour⟩
    -- the power of two below the value fixes the count of places
    have hlt : j < 40 := by
      rw [← Nat.pow_lt_pow_iff_right (a := 2) (by decide)]
      omega
    have hpow : 2 ^ j * 2 ^ (52 - j) = 2 ^ 52 := by
      rw [← Nat.pow_add, Nat.add_sub_cancel' (by omega)]
    have hlower : 10 * 2 ^ j * 2 ^ (52 - j) ≤ n * 2 ^ (52 - j) := Nat.mul_le_mul_right _ hj
    have hupper : 100 * n * 2 ^ (52 - j) < 2 ^ (j + 10) * 2 ^ (52 - j) :=
      Nat.mul_lt_mul_of_pos_right hfine (Nat.two_pow_pos _)
    rw [Nat.pow_add, Nat.mul_right_comm (2 ^ j), hpow, Nat.mul_assoc] at hupper
    rw [Nat.mul_assoc, hpow] at hlower
    obtain rfl := h.unique ⟨by omega, by omega, hlower, by omega⟩
    exact ⟨by omega, hfour⟩
  · rintro ⟨hfine, hfour⟩
    have hle := h.le_of_fine hfine hfour
    have hlower := h.lower
    have hpow : 2 ^ (52 - k) * 2 ^ k = 2 ^ 52 := by
      rw [← Nat.pow_add, Nat.sub_add_cancel hle]
    refine ⟨52 - k, ?_, ?_, by rwa [Nat.sub_sub_self hle]⟩
    · refine Nat.le_of_mul_le_mul_right (c := 2 ^ k) ?_ (Nat.two_pow_pos k)
      rw [Nat.mul_assoc, hpow]
      exact hlower
    · refine Nat.lt_of_mul_lt_mul_right (a := 2 ^ k) ?_
      rw [Nat.pow_add, Nat.mul_right_comm (2 ^ (52 - k)), hpow, Nat.mul_assoc]
      omega

end HasPlaces

/-! ## Columns -/

/-- A column is scaled and loses its fraction, if both it and its product are finite. -/
theorem readColumn_of_isFinite {text : Text} {x : Binary64} {factor : Nat}
    (hread : readBinary64 text = some x) (hfinite : x.isFinite = true)
    (htimes : (x.times factor).isFinite = true) :
    readColumn (some text) factor = some (x.times factor).truncate := by
  rw [readColumn, Option.bind_some, hread]
  simp [hfinite, htimes]

/-- No tenths are read as zero, whatever they are scaled by. -/
theorem readColumn_zero {text : Text}
    (hread : readBinary64 text = some (Binary64.ofRatio false 0 10)) (factor : Nat) :
    readColumn (some text) factor = some 0 := by
  have htimes : (Binary64.ofRatio false 0 10).times factor =
      .finite false 0 Binary64.minExponent := by
    rw [Binary64.ofRatio, if_pos rfl, Binary64.times, Binary64.ratio_eq]
    dsimp only
    rw [Nat.zero_mul, Nat.zero_mul, Binary64.ofRatio, if_pos rfl]
  rw [readColumn_of_isFinite hread rfl (by rw [htimes]; rfl), htimes]
  rfl

/-- Scaled by a power of two, the number is cut to the whole number it should be. -/
theorem readColumn_two_pow {text : Text} {v : ℚ} (h : OnePlace text v) (hv : v < 2 ^ 40) {i : Nat}
    (hi : i ≤ 10) : readColumn (some text) (2 ^ i) = some ⌊2 ^ i * v⌋ := by
  obtain ⟨n, rfl, hbound, hread⟩ := h.exists_tenths hv
  have hfloor : ⌊2 ^ i * ((n : ℚ) / 10)⌋ = (n * 2 ^ i / 10 : Nat) := by
    have hscale : 2 ^ i * ((n : ℚ) / 10) = ((n * 2 ^ i : ℕ) : ℚ) / (10 : ℕ) := by
      push_cast
      ring
    rw [hscale, Rat.floor_natCast_div_natCast]
    rfl
  rw [hfloor]
  by_cases hne : n = 0
  · subst hne
    rw [readColumn_zero hread]
    simp
  · obtain ⟨k, hk⟩ := exists_hasPlaces hne hbound
    obtain ⟨htimes, htruncate⟩ := hk.truncate_times_two_pow hi
    rw [readColumn_of_isFinite hread (by rw [hk.ofRatio_eq]; rfl) htimes, htruncate]

/-- A count is cut to its whole part. -/
theorem readColumn_one {text : Text} {v : ℚ} (h : OnePlace text v) (hv : v < 2 ^ 40) :
    readColumn (some text) 1 = some ⌊v⌋ := by
  have hread := readColumn_two_pow h hv (i := 0) (by decide)
  rwa [pow_zero, pow_zero, one_mul] at hread

/-- Kilobytes become bytes, and a fraction of a byte is cut off. -/
theorem readColumn_kilo {text : Text} {v : ℚ} (h : OnePlace text v) (hv : v < 2 ^ 40) :
    readColumn (some text) 1024 = some ⌊1024 * v⌋ := by
  have hread := readColumn_two_pow h hv (i := 10) le_rfl
  norm_num at hread
  exact hread

/-- Scaled by a thousand, the number is what it should be, or one less where it falls short. -/
theorem readColumn_thousand {text : Text} {v : ℚ} (h : OnePlace text v) (hv : v < 2 ^ 40) :
    ∃ ms, readColumn (some text) 1000 = some ms ∧
      (FallsShort v → (ms : ℚ) = 1000 * v - 1) ∧ (¬ FallsShort v → (ms : ℚ) = 1000 * v) := by
  obtain ⟨n, rfl, hbound, hread⟩ := h.exists_tenths hv
  have hscale : 1000 * ((n : ℚ) / 10) = (100 * n : Nat) := by
    push_cast
    ring
  -- zero has no places, and falls short of nothing
  by_cases hne : n = 0
  · subst hne
    refine ⟨0, readColumn_zero hread 1000, fun hshort => ?_, fun _ => by simp⟩
    obtain ⟨j, hj, -⟩ := (fallsShort_tenths_iff 0).1 hshort
    have := Nat.two_pow_pos j
    omega
  · obtain ⟨k, hk⟩ := exists_hasPlaces hne hbound
    obtain ⟨htimes, htruncate⟩ := hk.truncate_times_thousand hne
    refine ⟨_, readColumn_of_isFinite hread (by rw [hk.ofRatio_eq]; rfl) htimes, ?_, ?_⟩
    · intro hshort
      rw [htruncate, hscale, if_pos ((hk.fallsShort_iff hbound).1 hshort), Int.cast_natCast,
        Nat.cast_sub (by omega), Nat.cast_one]
    · intro hshort
      rw [htruncate, hscale, if_neg fun hfine => hshort ((hk.fallsShort_iff hbound).2 hfine),
        Nat.sub_zero, Int.cast_natCast]

end StorageInventory.Number
