import Mathlib.Tactic
import StorageInventory.Text.Utf8

/-!
# Decoding what was encoded

The bytes of a code point are a first byte with the highest bits, which says how many bytes follow,
and a continuation byte for every six bits that are left.  Decoding takes them up again: after each
byte the machine holds the bits read so far, which are the number without the bits still missing.

* `decodeFrom_continuations` — the continuation bytes give the number, whatever the first byte was,
* `decodeFrom_encodeChar` — one code point, and what follows it,
* `decode_encode` — a text.

The bounds for the first continuation byte keep out what no code point is encoded as.  They are met
because a code point is written with as few bytes as it needs and is no surrogate.
-/

namespace StorageInventory.Text.Utf8

/-! ## Continuation bytes -/

/-- A continuation byte of a number: six of its bits, those above the lowest `k` times six. -/
def continuation (n k : Nat) : UInt8 := UInt8.ofNat (0x80 + (n >>> (6 * k)) % 64)

/-- The last continuation bytes of a number. -/
def continuations (n : Nat) : Nat → List UInt8
  | 0 => []
  | k + 1 => continuation n k :: continuations n k

/-- A continuation byte carries six bits of the number. -/
theorem toNat_continuation (n k : Nat) : (continuation n k).toNat = 0x80 + n / 64 ^ k % 64 := by
  have hpow : 2 ^ (6 * k) = 64 ^ k := pow_mul 2 6 k
  rw [continuation, UInt8.toNat_ofNat', Nat.shiftRight_eq_div_pow, hpow]
  exact Nat.mod_eq_of_lt (by omega)

/-- A byte within the bounds adds its bits to those read so far. -/
theorem decodeFrom_continue {missing low high bits : Nat} {byte : UInt8} (hlow : low ≤ byte.toNat)
    (hhigh : byte.toNat ≤ high) (rest : List UInt8) :
    decodeFrom (some ⟨missing + 1, low, high, bits⟩) (byte :: rest) =
      decodeFrom (some ⟨missing, 0x80, 0xBF, bits * 64 + (byte.toNat - 0x80)⟩) rest := by
  rw [decodeFrom]
  simp only [hlow, hhigh, decide_true, Bool.and_self, if_true]

/-- The last byte within the bounds makes the number. -/
theorem decodeFrom_last {low high bits : Nat} {byte : UInt8} (hlow : low ≤ byte.toNat)
    (hhigh : byte.toNat ≤ high) (rest : List UInt8) :
    decodeFrom (some ⟨0, low, high, bits⟩) (byte :: rest) =
      Char.ofNat (bits * 64 + (byte.toNat - 0x80)) :: decodeFrom none rest := by
  rw [decodeFrom]
  simp only [hlow, hhigh, decide_true, Bool.and_self, if_true]

/-- The continuation bytes give the number whose other bits were read, if the first of them is
within the bounds. -/
theorem decodeFrom_continuations {n k low high : Nat} (hlow : low ≤ (continuation n k).toNat)
    (hhigh : (continuation n k).toNat ≤ high) (rest : List UInt8) :
    decodeFrom (some ⟨k, low, high, n / 64 ^ (k + 1)⟩) (continuations n (k + 1) ++ rest) =
      Char.ofNat n :: decodeFrom none rest := by
  induction k generalizing low high with
  | zero =>
    have hbits : n / 64 ^ (0 + 1) * 64 + ((continuation n 0).toNat - 0x80) = n := by
      rw [toNat_continuation]
      omega
    rw [continuations, List.cons_append, decodeFrom_last hlow hhigh, hbits]
    rfl
  | succ k ih =>
    have hbits : n / 64 ^ (k + 1 + 1) * 64 + ((continuation n (k + 1)).toNat - 0x80) =
        n / 64 ^ (k + 1) := by
      rw [toNat_continuation, Nat.add_sub_cancel_left, pow_succ 64 (k + 1),
        ← Nat.div_div_eq_div_mul,
        Nat.div_add_mod']
    rw [continuations, List.cons_append, decodeFrom_continue hlow hhigh, hbits]
    refine ih ?_ ?_ <;> rw [toNat_continuation] <;> omega

/-! ## Code points -/

/-- A byte below 0x80 is a character by itself. -/
theorem decodeFrom_ascii {byte : UInt8} (h : byte.toNat < 0x80) (rest : List UInt8) :
    decodeFrom none (byte :: rest) = Char.ofNat byte.toNat :: decodeFrom none rest := by
  rw [decodeFrom]
  simp only [h, if_true]

/-- A first byte and the continuation bytes that it announces. -/
theorem decodeFrom_sequence {n b k low high : Nat} (hb : b < 0x100)
    (hlead : lead? b = some ⟨k, low, high, n / 64 ^ (k + 1)⟩)
    (hlow : low ≤ (continuation n k).toNat) (hhigh : (continuation n k).toNat ≤ high)
    (rest : List UInt8) :
    decodeFrom none (UInt8.ofNat b :: (continuations n (k + 1) ++ rest)) =
      Char.ofNat n :: decodeFrom none rest := by
  have hbyte : (UInt8.ofNat b).toNat = b := by
    rw [UInt8.toNat_ofNat']
    exact Nat.mod_eq_of_lt hb
  have hnotAscii : ¬ b < 0x80 := by
    intro hascii
    rw [lead?, if_pos (by omega)] at hlead
    simp at hlead
  rw [decodeFrom]
  simp only [hbyte, hnotAscii, if_false, hlead]
  exact decodeFrom_continuations hlow hhigh rest

/-- The bytes from 0xC2 to 0xDF lead sequences of two. -/
theorem lead?_two {b : Nat} (hlow : 0xC2 ≤ b) (hhigh : b < 0xE0) :
    lead? b = some ⟨0, 0x80, 0xBF, b - 0xC0⟩ := by
  rw [lead?, if_neg (by omega), if_pos hhigh]

/-- The bytes from 0xE0 to 0xEF lead sequences of three; the first of them has no overlong form, and
0xED no surrogates. -/
theorem lead?_three {b : Nat} (hlow : 0xE0 ≤ b) (hhigh : b < 0xF0) :
    lead? b = some ⟨1, if b = 0xE0 then 0xA0 else 0x80, if b = 0xED then 0x9F else 0xBF,
      b - 0xE0⟩ := by
  rw [lead?, if_neg (by omega), if_neg (by omega), if_pos hhigh]

/-- The bytes from 0xF0 to 0xF4 lead sequences of four, which end with the last code point. -/
theorem lead?_four {b : Nat} (hlow : 0xF0 ≤ b) (hhigh : b < 0xF5) :
    lead? b = some ⟨2, if b = 0xF0 then 0x90 else 0x80, if b = 0xF4 then 0x8F else 0xBF,
      b - 0xF0⟩ := by
  rw [lead?, if_neg (by omega), if_neg (by omega), if_neg (by omega), if_pos hhigh]

/-- A code point is decoded, and then what follows it. -/
theorem decodeFrom_encodeChar (c : Char) (rest : List UInt8) :
    decodeFrom none (encodeChar c ++ rest) = c :: decodeFrom none rest := by
  have hvalid : c.toNat < 0xD800 ∨ 0xDFFF < c.toNat ∧ c.toNat < 0x110000 := c.valid
  have hchar : Char.ofNat c.toNat = c := Char.ofNat_toNat c
  rw [encodeChar]
  -- the four lengths of a sequence, by the size of the code point
  generalize c.toNat = n at hvalid hchar ⊢
  dsimp only
  rw [← hchar]
  split_ifs with h1 h2 h3
  · have hbyte : (UInt8.ofNat n).toNat = n := by
      rw [UInt8.toNat_ofNat']
      exact Nat.mod_eq_of_lt (by omega)
    rw [List.singleton_append, decodeFrom_ascii (by omega), hbyte]
  · have hfirst : n >>> 6 = n / 64 ^ (0 + 1) := Nat.shiftRight_eq_div_pow n 6
    have hlead := lead?_two (b := 0xC0 + n / 64 ^ (0 + 1)) (by omega) (by omega)
    rw [Nat.add_sub_cancel_left] at hlead
    rw [hfirst]
    refine decodeFrom_sequence (by omega) hlead ?_ ?_ rest <;> rw [toNat_continuation] <;> omega
  · have hfirst : n >>> 12 = n / 64 ^ (1 + 1) := Nat.shiftRight_eq_div_pow n 12
    have hlead := lead?_three (b := 0xE0 + n / 64 ^ (1 + 1)) (by omega) (by omega)
    rw [Nat.add_sub_cancel_left] at hlead
    rw [hfirst]
    refine decodeFrom_sequence (by omega) hlead ?_ ?_ rest <;> rw [toNat_continuation] <;>
      split_ifs <;> omega
  · have hfirst : n >>> 18 = n / 64 ^ (2 + 1) := Nat.shiftRight_eq_div_pow n 18
    have hlead := lead?_four (b := 0xF0 + n / 64 ^ (2 + 1)) (by omega) (by omega)
    rw [Nat.add_sub_cancel_left] at hlead
    rw [hfirst]
    refine decodeFrom_sequence (by omega) hlead ?_ ?_ rest <;> rw [toNat_continuation] <;>
      split_ifs <;> omega

/-- Decoding gives the text that was encoded. -/
theorem decode_encode (text : Text) : decode (encode text) = text := by
  rw [decode]
  induction text with
  | nil => rfl
  | cons c text ih => rw [encode, List.flatMap_cons, decodeFrom_encodeChar, ← encode, ih]

end StorageInventory.Text.Utf8
