import Mathlib.Tactic
import StorageInventory.Number.Binary64

/-!
# Rounding a quotient

The floating-point number nearest to a quotient has the exponent at which the quotient has a
mantissa of fifty-three bits, and the quotient at this exponent, rounded, as its mantissa.

* `roundDiv_eq`, `roundDiv_div` — a quotient is rounded to the whole number that it is nearest to,
  and on a grid that is fine enough it does not get to the next whole number,
* `exponentOf_eq` — the exponent is the one at which the quotient has so many bits,
* `ofRatio_eq`, `times_eq` — the number nearest to a quotient, and the product with a whole number,
* `truncate_eq` — what is left of a number when its fraction is cut off.
-/

namespace StorageInventory.Number

/-! ## To the nearest whole number -/

/-- A quotient is rounded down if its remainder is at most half, and up if it is at least half. -/
theorem roundDiv_cases (n d : Nat) :
    (roundDiv n d = n / d ∧ 2 * (n % d) ≤ d) ∨ (roundDiv n d = n / d + 1 ∧ d ≤ 2 * (n % d)) := by
  simp only [roundDiv]
  split_ifs
  · exact .inl ⟨rfl, by omega⟩
  · exact .inr ⟨rfl, by omega⟩
  · exact .inl ⟨rfl, by omega⟩
  · exact .inr ⟨rfl, by omega⟩

/-- A quotient that is nearer to a whole number than to any other is rounded to it. -/
theorem roundDiv_eq {n d q : Nat} (hlo : 2 * (q * d) < 2 * n + d) (hhi : 2 * n < 2 * (q * d) + d) :
    roundDiv n d = q := by
  have hd : 0 < d := by omega
  have hn := Nat.div_add_mod' n d
  have hmod := Nat.mod_lt n hd
  -- no other whole number than the quotient without its fraction, and the next one, is so near
  have hle : n / d ≤ q := by
    refine Nat.le_of_lt_succ (Nat.lt_of_mul_lt_mul_right (a := d) ?_)
    rw [Nat.succ_mul]
    omega
  have hge : q ≤ n / d + 1 := by
    refine Nat.le_of_lt_succ (Nat.lt_of_mul_lt_mul_right (a := d) ?_)
    rw [Nat.succ_mul, Nat.succ_mul]
    omega
  rcases roundDiv_cases n d with ⟨heq, hhalf⟩ | ⟨heq, hhalf⟩
  all_goals
    obtain rfl | rfl : q = n / d ∨ q = n / d + 1 := by omega
    · omega
    · rw [Nat.add_one_mul (n / d) d] at hlo hhi
      omega

/-- A quotient without remainder is not rounded. -/
theorem roundDiv_mul {q d : Nat} (hd : 0 < d) : roundDiv (q * d) d = q :=
  roundDiv_eq (by omega) (by omega)

/-- A common factor does not matter. -/
theorem roundDiv_mul_right (n d : Nat) {c : Nat} (hc : 0 < c) :
    roundDiv (n * c) (d * c) = roundDiv n d := by
  simp only [roundDiv, Nat.mul_div_mul_right _ _ hc, Nat.mul_mod_mul_right, ← Nat.mul_assoc,
    Nat.mul_lt_mul_right hc]

/-- On a grid that is fine enough, rounding does not get to the next whole number. -/
theorem roundDiv_div (n : Nat) {d a : Nat} (hd : 0 < d) (h : d < 2 * a) :
    roundDiv (n * a) d / a = n / d := by
  have ha : 0 < a := by omega
  have hscaled := Nat.div_add_mod' (n * a) d
  have hlo : n / d * a ≤ n * a / d := by
    rw [Nat.le_div_iff_mul_le hd, Nat.mul_right_comm]
    exact Nat.mul_le_mul_right a (Nat.div_mul_le_self n d)
  -- what is cut off leaves at least one step of the grid to the next whole number
  have hhi : n * a + a ≤ (n / d + 1) * a * d := by
    rw [← Nat.add_one_mul n a, Nat.mul_right_comm]
    refine Nat.mul_le_mul_right a ?_
    rw [Nat.add_one_mul (n / d) d]
    have hcut := Nat.div_add_mod' n d
    have hmod := Nat.mod_lt n hd
    omega
  have hround : roundDiv (n * a) d < (n / d + 1) * a := by
    refine Nat.lt_of_mul_lt_mul_right (a := d) ?_
    rcases roundDiv_cases (n * a) d with ⟨heq, hhalf⟩ | ⟨heq, hhalf⟩
    · rw [heq]
      omega
    · rw [heq, Nat.add_one_mul (n * a / d) d]
      omega
  have hge : n / d * a ≤ roundDiv (n * a) d := by
    rcases roundDiv_cases (n * a) d with ⟨heq, -⟩ | ⟨heq, -⟩ <;> omega
  exact Nat.div_eq_of_lt_le hge hround

/-! ## To the nearest floating-point number -/

/-- Shifting a one gives a power of two. -/
theorem twoTo_eq (n : Nat) : twoTo n = 2 ^ n := Nat.one_shiftLeft n

namespace Binary64

/-- A ratio is scaled on the side on which the power of two is whole. -/
theorem scaleRatio_eq (num den : Nat) (e : Int) :
    scaleRatio num den e = (num * 2 ^ (-e).toNat, den * 2 ^ e.toNat) := by
  cases e with
  | ofNat a => simp [scaleRatio, twoTo_eq]
  | negSucc a => simp [scaleRatio, twoTo_eq, Int.neg_negSucc]

/-- A mantissa and an exponent are a ratio with a power of two on one side. -/
theorem ratio_eq (m : Nat) (e : Int) : ratio m e = (m * 2 ^ e.toNat, 2 ^ (-e).toNat) := by
  cases e with
  | ofNat a => simp [ratio, twoTo_eq]
  | negSucc a => simp [ratio, twoTo_eq, Int.neg_negSucc]

/-- At this exponent the quotient has fifty-three bits in front of the point. -/
structure Normalizes (num den : Nat) (e : Int) : Prop where
  min_le : minExponent ≤ e
  le : 2 ^ 52 * (den * 2 ^ e.toNat) ≤ num * 2 ^ (-e).toNat
  lt : num * 2 ^ (-e).toNat < 2 ^ 53 * (den * 2 ^ e.toNat)

/-- What has fifty-three bits is not zero. -/
theorem Normalizes.num_ne_zero {num den : Nat} {e : Int} (h : Normalizes num den e) : num ≠ 0 := by
  rintro rfl
  have hlt := h.lt
  have hle := h.le
  rw [Nat.zero_mul] at hle hlt
  omega

/-- The numbers of bits tell the exponent up to one. -/
theorem Normalizes.log2 {num den : Nat} {e : Int} (h : Normalizes num den e) :
    (num.log2 : Int) - den.log2 - 53 = e - 1 ∨ (num.log2 : Int) - den.log2 - 53 = e := by
  have hnum := h.num_ne_zero
  have hden : den ≠ 0 := by
    rintro rfl
    simpa using h.lt
  -- a number lies between its power of two and the next, and so does the quotient
  have hlo : 2 ^ (52 + (den.log2 + e.toNat)) < 2 ^ (num.log2 + 1 + (-e).toNat) := by
    calc 2 ^ (52 + (den.log2 + e.toNat)) = 2 ^ 52 * (2 ^ den.log2 * 2 ^ e.toNat) := by
          rw [Nat.pow_add, Nat.pow_add]
      _ ≤ 2 ^ 52 * (den * 2 ^ e.toNat) :=
          Nat.mul_le_mul_left _ (Nat.mul_le_mul_right _ (Nat.log2_self_le hden))
      _ ≤ num * 2 ^ (-e).toNat := h.le
      _ < 2 ^ (num.log2 + 1) * 2 ^ (-e).toNat :=
          Nat.mul_lt_mul_of_pos_right Nat.lt_log2_self (Nat.two_pow_pos _)
      _ = 2 ^ (num.log2 + 1 + (-e).toNat) := (Nat.pow_add _ _ _).symm
  have hhi : 2 ^ (num.log2 + (-e).toNat) < 2 ^ (53 + (den.log2 + 1 + e.toNat)) := by
    calc 2 ^ (num.log2 + (-e).toNat) = 2 ^ num.log2 * 2 ^ (-e).toNat := Nat.pow_add _ _ _
      _ ≤ num * 2 ^ (-e).toNat := Nat.mul_le_mul_right _ (Nat.log2_self_le hnum)
      _ < 2 ^ 53 * (den * 2 ^ e.toNat) := h.lt
      _ ≤ 2 ^ 53 * (2 ^ (den.log2 + 1) * 2 ^ e.toNat) :=
          Nat.mul_le_mul_left _ (Nat.mul_le_mul_right _ Nat.lt_log2_self.le)
      _ = 2 ^ (53 + (den.log2 + 1 + e.toNat)) := by rw [← Nat.pow_add, ← Nat.pow_add]
  rw [Nat.pow_lt_pow_iff_right (by decide)] at hlo hhi
  omega

/-- A quotient is read off at the exponent at which it has so many bits. -/
theorem exponentOf_eq {num den : Nat} {e : Int} (h : Normalizes num den e) :
    exponentOf num den = e := by
  have hmin := h.min_le
  have hden : 0 < den * 2 ^ e.toNat := by
    have := h.lt
    omega
  -- the search starts at the exponent, or one below it, where the quotient has a bit too many
  have hstart : max minExponent ((num.log2 : Int) - den.log2 - 53) = e ∨
      max minExponent ((num.log2 : Int) - den.log2 - 53) = e - 1 := by
    rcases h.log2 with hlog | hlog <;> omega
  rw [exponentOf]
  rcases hstart with hstart | hstart
  · rw [hstart, scaleRatio_eq]
    dsimp only
    rw [if_pos]
    rw [mantissaBound, twoTo_eq, Nat.div_lt_iff_lt_mul hden]
    exact h.lt
  · rw [hstart, scaleRatio_eq]
    dsimp only
    rw [if_neg, sub_add_cancel]
    rw [mantissaBound, twoTo_eq, Nat.not_lt, Nat.le_div_iff_mul_le (Nat.mul_pos
      (Nat.pos_of_mul_pos_right hden) (Nat.two_pow_pos _))]
    have hle := h.le
    rcases le_or_gt e 0 with he | he
    · rw [show (e - 1).toNat = e.toNat by omega, show (-(e - 1)).toNat = (-e).toNat + 1 by omega,
        pow_succ 2 (-e).toNat, ← Nat.mul_assoc num]
      omega
    · rw [show e.toNat = (e - 1).toNat + 1 by omega, pow_succ 2 (e - 1).toNat,
        ← Nat.mul_assoc den] at hle
      rw [show (-(e - 1)).toNat = (-e).toNat by omega]
      omega

/-- The number nearest to a quotient, unless its mantissa is rounded up to one more bit. -/
theorem ofRatio_eq {num den m : Nat} {e : Int} (h : Normalizes num den e) (hmax : e ≤ maxExponent)
    (hm : roundDiv (num * 2 ^ (-e).toNat) (den * 2 ^ e.toNat) = m) (hbits : m < 2 ^ 53) :
    ofRatio false num den = .finite false m e := by
  have hbound : m ≠ mantissaBound := by
    rw [mantissaBound, twoTo_eq]
    exact hbits.ne
  rw [ofRatio, if_neg h.num_ne_zero, exponentOf_eq h]
  dsimp only
  rw [scaleRatio_eq]
  dsimp only
  rw [hm, if_neg hbound]
  dsimp only
  rw [if_neg (Int.not_lt.2 hmax)]

/-! ## Numbers with a fraction -/

/-- The product of a number that has a fraction, if it has one as well. -/
theorem times_eq {m factor k i p : Nat} (hik : i ≤ k) (hk : k ≤ 1074)
    (hlo : 2 ^ 52 * 2 ^ i ≤ m * factor) (hhi : m * factor < 2 ^ 53 * 2 ^ i)
    (hp : roundDiv (m * factor) (2 ^ i) = p) (hbits : p < 2 ^ 53) :
    (Binary64.finite false m (-k)).times factor = .finite false p (-(k - i : Nat)) := by
  have hcut : 2 ^ i * 2 ^ (k - i) = 2 ^ k := by rw [← Nat.pow_add, Nat.add_sub_cancel' hik]
  have hpos : 0 < 2 ^ (k - i) := Nat.two_pow_pos _
  have hdown : ∀ j : Nat, (-(-(j : Int))).toNat = j ∧ (-(j : Int)).toNat = 0 := by omega
  rw [times, ratio_eq]
  dsimp only
  rw [(hdown k).1, (hdown k).2, Nat.pow_zero, Nat.mul_one]
  refine ofRatio_eq ⟨?_, ?_, ?_⟩ ?_ ?_ hbits
  · rw [minExponent]
    omega
  · rw [(hdown _).1, (hdown _).2, Nat.pow_zero, Nat.mul_one, ← hcut, ← Nat.mul_assoc]
    exact Nat.mul_le_mul_right _ hlo
  · rw [(hdown _).1, (hdown _).2, Nat.pow_zero, Nat.mul_one, ← hcut, ← Nat.mul_assoc]
    exact Nat.mul_lt_mul_of_pos_right hhi hpos
  · rw [maxExponent]
    omega
  · rw [(hdown _).1, (hdown _).2, Nat.pow_zero, Nat.mul_one, ← hcut, roundDiv_mul_right _ _ hpos,
      hp]

/-- Dropping the fraction of a number divides its mantissa by the power of two, rounding down. -/
theorem truncate_eq (m j : Nat) : (Binary64.finite false m (-j)).truncate = (m / 2 ^ j : Nat) := by
  have hdown : (-(-(j : Int))).toNat = j ∧ (-(j : Int)).toNat = 0 := by omega
  rw [truncate, ratio_eq, hdown.1, hdown.2, Nat.pow_zero, Nat.mul_one]
  rfl

end Binary64

end StorageInventory.Number
