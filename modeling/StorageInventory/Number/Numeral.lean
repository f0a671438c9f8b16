import StorageInventory.Number.Binary64
import StorageInventory.Text.Basic

/-!
# Numerals

Whole and decimal numerals share the rules for blanks, signs and digits.

* `readInteger` reads a whole number, or says why the text is none,
* `readBinary64` reads a decimal numeral as the nearest floating-point number.
-/

namespace StorageInventory.Number

open Text

/-!
## The digits of a numeral

Whole and decimal numerals share three rules.  Blanks around a numeral are ignored, the information
separators excepted; a sign may stand in front; and digits of any script may be grouped by single
underscores, each between two digits.

* `trimNumeral` drops the blanks around,
* `takeSign` splits off the sign,
* `takeDigits` splits off the longest grouped run of digits.
-/

/-- The blanks that may stand around a numeral: all but the information separators. -/
def isOuterBlank (c : Char) : Bool :=
  isBlank c && !(0x1C ≤ c.toNat && c.toNat ≤ 0x1F)

/-- Drop the blanks around a numeral. -/
def trimNumeral (text : Text) : Text :=
  ((text.dropWhile isOuterBlank).reverse.dropWhile isOuterBlank).reverse

/-- Split off a sign: whether it is a minus, and what follows. -/
def takeSign : Text → Bool × Text
  | '-' :: rest => (true, rest)
  | '+' :: rest => (false, rest)
  | text => (false, text)

/-- Split off what follows a digit: digits, each of them right behind the one before or behind a
single underscore. -/
def takeMoreDigits : Text → List Nat × Text
  | [] => ([], [])
  | '_' :: c :: rest =>
    match decimalDigit? c with
    | none => ([], '_' :: c :: rest)
    | some v => ((takeMoreDigits rest).map (v :: ·) id)
  | c :: rest =>
    match decimalDigit? c with
    | none => ([], c :: rest)
    | some v => ((takeMoreDigits rest).map (v :: ·) id)

/-- Split off the longest run of digits in which single underscores may stand between two digits:
the values of the digits, and what follows. -/
def takeDigits : Text → List Nat × Text
  | [] => ([], [])
  | c :: rest =>
    match decimalDigit? c with
    | none => ([], c :: rest)
    | some v => ((takeMoreDigits rest).map (v :: ·) id)

/-- The number that a list of decimal digits writes. -/
def ofDigits (digits : List Nat) : Nat := digits.foldl (fun n d => 10 * n + d) 0

/-!
## Whole numerals

A whole numeral is an optional sign and a grouped run of digits, with nothing else but blanks around
it.  One with more than 4300 digits is refused, leading zeros included, since reading it takes
quadratic time; the run of digits is refused before what follows it is looked at, unless an
underscore stands there that groups no digits.
-/

/-- The most digits that a whole numeral may have. -/
def digitLimit : Nat := 4300

/-- Why a text is no whole number. -/
inductive IntegerError where
  /-- The text is no whole numeral. -/
  | malformed
  /-- The numeral has this many digits, which is more than the limit. -/
  | tooLong (digits : Nat)
  deriving DecidableEq, Repr

/-- Read a whole number. -/
def readInteger (text : Text) : Except IntegerError Int :=
  let (negative, body) := takeSign (trimNumeral text)
  match takeDigits body with
  | ([], _) => .error .malformed
  | (_, '_' :: _) => .error .malformed
  | (digits, rest) =>
    if digitLimit < digits.length then .error (.tooLong digits.length)
    else if rest ≠ [] then .error .malformed
    else if negative then .ok (-(ofDigits digits : Int))
    else .ok (ofDigits digits)

/-!
## Decimal numerals

A decimal numeral has a sign, digits with at most one point among or around them, and an exponent;
instead of digits it may be a word for infinity or for not-a-number in any letter case.  Its value
is rounded to the nearest floating-point number, so a numeral can be too large for a finite one.
-/

/-- Whole and fractional digits and an exponent: the number `digits * 10 ^ exponent`. -/
structure Decimal where
  digits : List Nat
  exponent : Int
  deriving DecidableEq, Repr

/-- The floating-point number nearest to a decimal.  A number of more than 400 places before or
after the point is beyond all finite ones or below the least, whatever its digits are. -/
def Decimal.toBinary64 (negative : Bool) (x : Decimal) : Binary64 :=
  let n := ofDigits x.digits
  if n = 0 then .finite negative 0 Binary64.minExponent
  else
    let places := (ofNat n).length + x.exponent
    if 400 < places then .infinite negative
    else if places < -400 then .finite negative 0 Binary64.minExponent
    else match x.exponent with
      | .ofNat e => Binary64.ofRatio negative (n * tenTo e) 1
      | .negSucc e => Binary64.ofRatio negative n (tenTo (e + 1))

/-- Read the exponent part, which may be missing; nothing may follow it. -/
def readExponent : Text → Option Int
  | [] => some 0
  | c :: rest =>
    if c = 'e' || c = 'E' then
      let (negative, body) := takeSign rest
      match takeDigits body with
      | (d :: ds, []) =>
        let n : Int := ofDigits (d :: ds)
        some (if negative then -n else n)
      | _ => none
    else none

/-- Read an unsigned decimal. -/
def readDecimal (text : Text) : Option Decimal :=
  let (whole, rest) := takeDigits text
  let (fraction, rest) :=
    match rest with
    | '.' :: more => takeDigits more
    | _ => ([], rest)
  match whole ++ fraction, readExponent rest with
  | [], _ => none
  | _, none => none
  | digits, some e => some ⟨digits, e - fraction.length⟩

/-- The ASCII capital letters made small. -/
def asciiLower (text : Text) : Text := text.map Char.toLower

/-- Read a floating-point number. -/
def readBinary64 (text : Text) : Option Binary64 :=
  let (negative, body) := takeSign (trimNumeral text)
  let word := asciiLower body
  if word = "inf".toList || word = "infinity".toList then some (.infinite negative)
  else if word = "nan".toList then some .nan
  else (readDecimal body).map (Decimal.toBinary64 negative)

end StorageInventory.Number
