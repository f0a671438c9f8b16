import Mathlib.Tactic
import StorageInventory.Pass.Rows
import StorageInventory.Proofs.Number.Numerals
import StorageInventory.Proofs.Number.Rounding

/-!
# Whole numbers that floating point keeps

A natural number whose bits, but for zeros at the end, are at most fifty-three is a floating-point
number.  Reading it, multiplying it and truncating it are then exact, as long as the products fit as
well.

* `ofRatio_exact` — rounding keeps a number that fits,
* `Holds.times`, `Holds.truncate` — so arithmetic on such numbers is that of natural numbers,
* `readColumn_ofNat` — a counter that is written as a natural number is read as it is, and scaled.

The exponent that rounding reads the mantissa off at is told by the number of bits
(`normalizes_mul_two_pow`); a number that fits is a multiple of that power of two, so nothing is
rounded.
-/

namespace StorageInventory.Number

open Text

/-- The number has at most fifty-three bits in front of its zeros at the end. -/
def Fits (n : Nat) : Prop := ∃ m k, m < 2 ^ 53 ∧ k ≤ 971 ∧ n = m * 2 ^ k

/-- A number below `2 ^ 53` fits. -/
theorem Fits.of_lt {n : Nat} (h : n < 2 ^ 53) : Fits n := ⟨n, 0, h, by omega, by simp⟩

/-- So does such a number shifted by a power of two that is not too large. -/
theorem Fits.of_lt_mul {n : Nat} (h : n < 2 ^ 53) {k : Nat} (hk : k ≤ 971) : Fits (n * 2 ^ k) :=
  ⟨n, k, h, hk, rfl⟩

/-- The number of bits of a number that fits. -/
theorem log2_of_fits {m k : Nat} (h : m < 2 ^ 53) (hpos : m * 2 ^ k ≠ 0) :
    (m * 2 ^ k).log2 < 53 + k := by
  rw [Nat.log2_lt hpos, Nat.pow_add]
  exact Nat.mul_lt_mul_of_pos_right h (Nat.two_pow_pos k)

namespace Binary64

/-- The exponent is told by the number of bits. -/
theorem normalizes_mul_two_pow {n : Nat} (h : n ≠ 0) (j : Nat) :
    Normalizes (n * 2 ^ j) (2 ^ j) ((n.log2 : Int) - 52) := by
  have hshift : n.log2 + (-((n.log2 : Int) - 52)).toNat = 52 + ((n.log2 : Int) - 52).toNat := by
    omega
  have hmin : minExponent ≤ (n.log2 : Int) - 52 := by
    rw [minExponent]
    omega
  generalize (n.log2 : Int) - 52 = e at hshift hmin ⊢
  have hbits := Nat.pow_add 2 n.log2 (-e).toNat
  have hone := Nat.pow_add 2 1 (n.log2 + (-e).toNat)
  rw [hshift, Nat.pow_add] at hbits hone
  have hlo : 2 ^ 52 * 2 ^ e.toNat ≤ n * 2 ^ (-e).toNat :=
    hbits ▸ Nat.mul_le_mul_right _ (Nat.log2_self_le h)
  have hhi : n * 2 ^ (-e).toNat < 2 ^ 53 * 2 ^ e.toNat := by
    calc n * 2 ^ (-e).toNat < 2 ^ (n.log2 + 1) * 2 ^ (-e).toNat :=
          Nat.mul_lt_mul_of_pos_right Nat.lt_log2_self (Nat.two_pow_pos _)
      _ = 2 ^ 53 * 2 ^ e.toNat := by rw [pow_succ, Nat.mul_right_comm, ← hbits]; ring
  refine ⟨hmin, ?_, ?_⟩
  · rw [Nat.mul_right_comm, Nat.mul_left_comm, Nat.mul_comm _ (2 ^ j)]
    exact Nat.mul_le_mul_left _ hlo
  · rw [Nat.mul_right_comm, Nat.mul_left_comm, Nat.mul_comm _ (2 ^ j)]
    exact Nat.mul_lt_mul_of_pos_left hhi (Nat.two_pow_pos j)

/-- The floating-point number is a natural number, exactly. -/
def Holds (x : Binary64) (n : Nat) : Prop :=
  ∃ m e, x = .finite false m e ∧ m * 2 ^ e.toNat = n * 2 ^ (-e).toNat

/-- A number that fits is a multiple of the power of two that its mantissa is read off at. -/
theorem exists_mantissa {n : Nat} (h : Fits n) (hne : n ≠ 0) :
    ∃ q, q < 2 ^ 53 ∧
      n * 2 ^ (-((n.log2 : Int) - 52)).toNat = q * 2 ^ ((n.log2 : Int) - 52).toNat := by
  obtain ⟨m, k, hm, -, hn⟩ := h
  have hlog : n.log2 < 53 + k := by
    rw [hn] at hne ⊢
    exact log2_of_fits hm hne
  have hshift : n.log2 + 1 + (-((n.log2 : Int) - 52)).toNat = 53 + ((n.log2 : Int) - 52).toNat := by
    omega
  have hup : ((n.log2 : Int) - 52).toNat ≤ k := by omega
  generalize ((n.log2 : Int) - 52).toNat = up at hshift hup
  generalize (-((n.log2 : Int) - 52)).toNat = down at hshift
  have hdvd : 2 ^ up ∣ n * 2 ^ down := by
    rw [hn]
    exact Dvd.dvd.mul_right (Dvd.dvd.mul_left (Nat.pow_dvd_pow 2 hup) m) _
  obtain ⟨q, hq⟩ := hdvd
  refine ⟨q, ?_, by rw [hq, Nat.mul_comm]⟩
  -- scaled, the number has fifty-three bits in front of those that are zero
  have hlt : 2 ^ up * q < 2 ^ up * 2 ^ 53 := by
    calc 2 ^ up * q = n * 2 ^ down := hq.symm
      _ < 2 ^ (n.log2 + 1) * 2 ^ down :=
        Nat.mul_lt_mul_of_pos_right Nat.lt_log2_self (Nat.two_pow_pos down)
      _ = 2 ^ up * 2 ^ 53 := by rw [← Nat.pow_add, hshift, Nat.pow_add, Nat.mul_comm]
  exact Nat.lt_of_mul_lt_mul_left hlt

/-- Rounding keeps a number that fits. -/
theorem ofRatio_exact {n : Nat} (h : Fits n) (j : Nat) :
    Holds (ofRatio false (n * 2 ^ j) (2 ^ j)) n := by
  by_cases hne : n = 0
  · subst hne
    rw [ofRatio]
    exact ⟨0, minExponent, by simp, by simp⟩
  obtain ⟨q, hq, heq⟩ := exists_mantissa h hne
  have hexp : (n.log2 : Int) - 52 ≤ maxExponent := by
    obtain ⟨m, k, hm, hk, hn⟩ := h
    have hlog : n.log2 < 53 + k := by
      rw [hn] at hne ⊢
      exact log2_of_fits hm hne
    rw [maxExponent]
    omega
  have hnorm := normalizes_mul_two_pow hne j
  generalize ((n.log2 : Int) - 52) = e at heq hexp hnorm
  -- the scaled quotient is the mantissa itself, so nothing is rounded
  have hnumer : n * 2 ^ j * 2 ^ (-e).toNat = q * (2 ^ j * 2 ^ e.toNat) := by
    rw [Nat.mul_right_comm, heq]
    ring
  have hround : roundDiv (n * 2 ^ j * 2 ^ (-e).toNat) (2 ^ j * 2 ^ e.toNat) = q := by
    rw [hnumer, roundDiv_mul (by positivity)]
  rw [ofRatio_eq hnorm hexp hround hq]
  exact ⟨q, e, rfl, heq.symm⟩

/-- Arithmetic on numbers that fit is that of natural numbers. -/
theorem Holds.times {x : Binary64} {n factor : Nat} (h : Holds x n) (hfits : Fits (n * factor)) :
    Holds (x.times factor) (n * factor) := by
  obtain ⟨m, e, rfl, heq⟩ := h
  rw [Binary64.times, ratio_eq]
  dsimp only
  rw [heq, Nat.mul_right_comm]
  exact ofRatio_exact hfits _

/-- Nothing is lost of a natural number by dropping the fraction. -/
theorem Holds.truncate {x : Binary64} {n : Nat} (h : Holds x n) : x.truncate = n := by
  obtain ⟨m, e, rfl, heq⟩ := h
  rw [Binary64.truncate, ratio_eq]
  dsimp only
  rw [heq, Nat.mul_div_cancel n (Nat.two_pow_pos _)]
  simp

/-- A natural number is finite. -/
theorem Holds.isFinite {x : Binary64} {n : Nat} (h : Holds x n) : x.isFinite = true := by
  obtain ⟨m, e, rfl, -⟩ := h
  rfl

end Binary64

/-! ## Counters -/

/-- A number below `2 ^ 53` has at most sixteen digits. -/
theorem length_ofNat_le {n : Nat} (h : n < 2 ^ 53) : (ofNat n).length ≤ 16 := by
  rw [ofNat, Nat.length_toDigits_le_iff (by decide) (by decide)]
  exact h.trans_le (by norm_num)

/-- A counter that is written as a natural number is that number. -/
theorem exists_holds_readBinary64 {n : Nat} (h : n < 2 ^ 53) :
    ∃ x, readBinary64 (ofNat n) = some x ∧ x.Holds n := by
  have hholds := Binary64.ofRatio_exact (Fits.of_lt h) 0
  rw [readBinary64_ofNat ((length_ofNat_le h).trans (by decide))]
  refine ⟨_, rfl, ?_⟩
  split
  · next hzero => exact ⟨0, Binary64.minExponent, rfl, by simp [hzero]⟩
  · simpa using hholds

/-- It is scaled exactly, if the product fits. -/
theorem readColumn_ofNat {n : Nat} (h : n < 2 ^ 53) (factor : Nat) (hfits : Fits (n * factor)) :
    Pass.readColumn (some (ofNat n)) factor = some ((n * factor : Nat) : Int) := by
  obtain ⟨x, hread, hx⟩ := exists_holds_readBinary64 h
  have htimes := hx.times hfits
  rw [Pass.readColumn, Option.bind_some, hread]
  dsimp only
  rw [hx.isFinite, htimes.isFinite, htimes.truncate]
  rfl

end StorageInventory.Number
