import StorageInventory.Text.Basic

/-!
# UTF-8

Reading bytes is a machine with two kinds of states: between characters, and inside a character that
still needs some continuation bytes.  A byte that cannot go on ends the sequence read so far, which
is then a *maximal ill-formed piece*, and is looked at again as a first byte.

* `decode` puts one U+FFFD in the place of every ill-formed piece,
* `decodeStrict` gives the text, or the first ill-formed piece and what is wrong with it,
* `encode` writes a text.
-/

namespace StorageInventory.Text.Utf8

/-- A sequence under way: how many continuation bytes are missing after the next one, the bounds for
the next one, and the bits read so far. -/
structure Partial where
  missing : Nat
  low : Nat
  high : Nat
  bits : Nat

/-- What a first byte of a longer sequence announces.  The narrower bounds after E0, ED, F0 and F4
keep out overlong forms, surrogates and numbers above U+10FFFF. -/
def lead? (b : Nat) : Option Partial :=
  if b < 0xC2 then none
  else if b < 0xE0 then some ⟨0, 0x80, 0xBF, b - 0xC0⟩
  else if b < 0xF0 then
    some ⟨1, if b = 0xE0 then 0xA0 else 0x80, if b = 0xED then 0x9F else 0xBF, b - 0xE0⟩
  else if b < 0xF5 then
    some ⟨2, if b = 0xF0 then 0x90 else 0x80, if b = 0xF4 then 0x8F else 0xBF, b - 0xF0⟩
  else none

/-- The replacement character. -/
def replacement : Char := '\uFFFD'

/-- Decode the rest of the bytes, given the sequence under way. -/
def decodeFrom : Option Partial → List UInt8 → Text
  | none, [] => []
  | some _, [] => [replacement]
  | state, byte :: rest =>
    let b := byte.toNat
    let first : Text :=
      if b < 0x80 then Char.ofNat b :: decodeFrom none rest
      else match lead? b with
        | none => replacement :: decodeFrom none rest
        | some p => decodeFrom (some p) rest
    match state with
    | none => first
    | some p =>
      if p.low ≤ b && b ≤ p.high then
        let bits := p.bits * 64 + (b - 0x80)
        match p.missing with
        | 0 => Char.ofNat bits :: decodeFrom none rest
        | missing + 1 => decodeFrom (some ⟨missing, 0x80, 0xBF, bits⟩) rest
      else replacement :: first

/-- Decode bytes, one U+FFFD for every maximal ill-formed piece. -/
def decode (bytes : List UInt8) : Text := decodeFrom none bytes

/-- What is wrong with an ill-formed piece. -/
inductive Reason where
  | invalidStart
  | invalidContinuation
  | unexpectedEnd

/-- The first ill-formed piece: where it starts, its bytes, and what is wrong with it. -/
structure Malformed where
  position : Nat
  bytes : List UInt8
  reason : Reason

/-- Decode the rest of the bytes strictly; the sequence under way comes with its bytes so far. -/
def decodeStrictFrom (position : Nat) : Option (Partial × List UInt8) → List UInt8 →
    Except Malformed Text
  | none, [] => .ok []
  | some (_, seen), [] => .error ⟨position - seen.length, seen, .unexpectedEnd⟩
  | none, byte :: rest =>
    let b := byte.toNat
    if b < 0x80 then (decodeStrictFrom (position + 1) none rest).map (Char.ofNat b :: ·)
    else match lead? b with
      | none => .error ⟨position, [byte], .invalidStart⟩
      | some p => decodeStrictFrom (position + 1) (some (p, [byte])) rest
  | some (p, seen), byte :: rest =>
    let b := byte.toNat
    if p.low ≤ b && b ≤ p.high then
      let bits := p.bits * 64 + (b - 0x80)
      match p.missing with
      | 0 => (decodeStrictFrom (position + 1) none rest).map (Char.ofNat bits :: ·)
      | missing + 1 =>
        decodeStrictFrom (position + 1) (some (⟨missing, 0x80, 0xBF, bits⟩, seen ++ [byte])) rest
    else .error ⟨position - seen.length, seen, .invalidContinuation⟩

/-- Decode bytes that must all be well formed. -/
def decodeStrict (bytes : List UInt8) : Except Malformed Text := decodeStrictFrom 0 none bytes

/-- The words for what is wrong. -/
def Reason.message : Reason → Text
  | .invalidStart => "invalid start byte".toList
  | .invalidContinuation => "invalid continuation byte".toList
  | .unexpectedEnd => "unexpected end of data".toList

/-- The words for an ill-formed piece.  A piece of one byte is shown itself, of a longer one only
the first and last position. -/
def Malformed.message (m : Malformed) : Text :=
  let place : Text :=
    match m.bytes with
    | [byte] =>
      "byte 0x".toList ++ ofNatHex 2 byte.toNat ++ " in position ".toList ++ ofNat m.position
    | bytes =>
      "bytes in position ".toList ++ ofNat m.position ++ "-".toList
        ++ ofNat (m.position + bytes.length - 1)
  "'utf-8' codec can't decode ".toList ++ place ++ ": ".toList ++ m.reason.message

/-- The bytes of one code point. -/
def encodeChar (c : Char) : List UInt8 :=
  let n := c.toNat
  let tail (k : Nat) : UInt8 := UInt8.ofNat (0x80 + (n >>> (6 * k)) % 64)
  if n < 0x80 then [UInt8.ofNat n]
  else if n < 0x800 then [UInt8.ofNat (0xC0 + (n >>> 6)), tail 0]
  else if n < 0x10000 then [UInt8.ofNat (0xE0 + (n >>> 12)), tail 1, tail 0]
  else [UInt8.ofNat (0xF0 + (n >>> 18)), tail 2, tail 1, tail 0]

/-- The bytes of a text. -/
def encode (text : Text) : List UInt8 := text.flatMap encodeChar

end StorageInventory.Text.Utf8
