import StorageInventory.Number.Binary64

/-!
# Writing floating-point numbers

A number is written as shortly as it can be read back, or with a given count of digits.
-/

namespace StorageInventory.Number

/-!
## The shortest text

A finite number is written with the fewest significant digits that read back as the same number, and
of those the nearest to it.  For each count of digits only the two neighbours of the number on that
decimal grid need a test.  The text is positional while the decimal exponent is between -4 and 15,
and scientific with an exponent of at least two digits otherwise.
-/

/-- Significant digits `digits` and the power of ten of the last one. -/
structure Significand where
  digits : Nat
  exponent : Int
  deriving DecidableEq, Repr

/-- The quotient `num / den` times a power of ten, as a pair. -/
def scaleTen (num den : Nat) : Int → Nat × Nat
  | .ofNat e => (num * tenTo e, den)
  | .negSucc e => (num, den * tenTo (e + 1))

/-- The exponent of the first significant digit of a positive quotient. -/
def decimalExponent (num den : Nat) : Int :=
  let guess : Int := (Text.ofNat num).length - (Text.ofNat den).length
  let (n, d) := scaleTen num den (-guess)
  if d ≤ n then guess else guess - 1

/-- The number nearest to a significand. -/
def Significand.nearest (negative : Bool) (s : Significand) : Binary64 :=
  let (n, d) := scaleTen s.digits 1 s.exponent
  Binary64.ofRatio negative n d

/-- The better of the two neighbours of `num / den` on the grid of the given count of digits, among
those that read back as `x`. -/
def neighbour? (x : Binary64) (negative : Bool) (num den : Nat) (count : Nat) :
    Option Significand :=
  let e := decimalExponent num den + 1 - count
  let (n, d) := scaleTen num den (-e)
  let below : Significand := ⟨n / d, e⟩
  let above : Significand := ⟨n / d + 1, e⟩
  match below.nearest negative == x, above.nearest negative == x with
  | true, true => some (if roundDiv n d = n / d then below else above)
  | true, false => some below
  | false, true => some above
  | false, false => none

/-- The first grid with a neighbour that reads back; seventeen digits always suffice. -/
def shortest (x : Binary64) (negative : Bool) (num den : Nat) : Significand :=
  let counts := (List.range 17).map (· + 1)
  (counts.findSome? (neighbour? x negative num den)).getD ⟨0, 0⟩

/-- Digits with a point after the first `places` ones; zeros are added where digits are missing. -/
def pointed (digits : Text) (places : Int) : Text :=
  match places with
  | .ofNat 0 => "0.".toList ++ digits
  | .negSucc k => "0.".toList ++ List.replicate (k + 1) '0' ++ digits
  | .ofNat k =>
    if digits.length ≤ k then digits ++ List.replicate (k - digits.length) '0' ++ ".0".toList
    else digits.take k ++ ".".toList ++ digits.drop k

/-- Digits with a point after the first one and a power of ten. -/
def scientific (digits : Text) (exponent : Int) : Text :=
  let sign := if exponent < 0 then '-' else '+'
  let fraction := if digits.length ≤ 1 then [] else '.' :: digits.drop 1
  digits.take 1 ++ fraction ++ ['e', sign] ++ Text.ofNatPadded 2 exponent.natAbs

/-- The zeros at the end of a text dropped. -/
def dropTrailingZeros (digits : Text) : Text :=
  (digits.reverse.dropWhile (· == '0')).reverse

/-- The text of a floating-point number. -/
def Binary64.toText (x : Binary64) : Text :=
  match x with
  | .nan => "nan".toList
  | .infinite negative => (if negative then "-inf" else "inf").toList
  | .finite negative m e =>
    let sign := if negative then ['-'] else []
    if m = 0 then sign ++ "0.0".toList
    else
      let (num, den) := Binary64.ratio m e
      let s := shortest x negative num den
      let all := Text.ofNat s.digits
      let first := s.exponent + all.length - 1
      let digits := dropTrailingZeros all
      sign ++ (if -4 ≤ first && first < 16 then pointed digits (first + 1)
        else scientific digits first)

/-!
## A given count of digits

Three forms of a size `num / den`, all rounded to the nearest, a tie to the even digit: with a count
of places after the point, with a power of ten, and with a count of significant digits in whichever
of the two forms is the more readable.
-/

/-- The places after the point behind their point, which stands alone only on demand. -/
def fractionText (keepPoint : Bool) (places : Text) : Text :=
  if places = [] && !keepPoint then [] else '.' :: places

/-- A size with the given count of places after the point. -/
def fixedText (num den places : Nat) (keepPoint : Bool) : Text :=
  let scaled := Text.ofNatPadded (places + 1) (roundDiv (num * tenTo places) den)
  let whole := scaled.length - places
  scaled.take whole ++ fractionText keepPoint (scaled.drop whole)

/-- The digits of a size, one before the point and the given count after it, and the exponent. -/
def powerDigits (num den places : Nat) : Text × Int :=
  if num = 0 then (List.replicate (places + 1) '0', 0)
  else
    let e := decimalExponent num den
    let (n, d) := scaleTen num den (places - e)
    let digits := Text.ofNat (roundDiv n d)
    if digits.length = places + 1 then (digits, e) else (digits.take (places + 1), e + 1)

/-- A size with a power of ten and the given count of places after the point. -/
def powerText (num den places : Nat) (keepPoint : Bool) : Text :=
  let (digits, e) := powerDigits num den places
  digits.take 1 ++ fractionText keepPoint (digits.drop 1) ++ ['e', if e < 0 then '-' else '+']
    ++ Text.ofNatPadded 2 e.natAbs

/-- A fraction without the zeros at its end, and without the point if nothing is left of it. -/
def trimFraction (text : Text) : Text :=
  if text.elem '.' then
    let kept := dropTrailingZeros text
    if kept.getLast? = some '.' then kept.dropLast else kept
  else text

/-- A size with the given count of significant digits. -/
def significantText (num den count : Nat) (keepZeros : Bool) : Text :=
  let count := max count 1
  let e := (powerDigits num den (count - 1)).2
  if -4 ≤ e && e < (count : Int) then
    let text := fixedText num den ((count : Int) - 1 - e).toNat keepZeros
    if keepZeros then text else trimFraction text
  else
    let text := powerText num den (count - 1) keepZeros
    if keepZeros then text
    else trimFraction (text.takeWhile (· ≠ 'e')) ++ text.dropWhile (· ≠ 'e')

end StorageInventory.Number
