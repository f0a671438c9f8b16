import StorageInventory.Text.Basic

/-!
# Binary floating-point numbers of 64 bits

Floating-point numbers as exact integers, and the quantities that are whole or floating-point
numbers.

* `Binary64.ofRatio` is the nearest number to a quotient,
* `Binary64.times` multiplies by a whole number, `Binary64.multiply` by another number, and
  `Binary64.add` adds one,
* `Binary64.truncate` drops the fraction,
* `Quantity.scaled?` is the product of a quantity with a whole number, without its fraction.
-/

namespace StorageInventory.Number

/-!
## Powers

The powers that binary and decimal numbers are scaled by, and that bound numbers of so many bits.
-/

/-- Two to a power: a number with one bit, at the given position. -/
def twoTo (exponent : Nat) : Nat := 1 <<< exponent

/-- Ten to a power. -/
def tenTo (exponent : Nat) : Nat := Nat.pow 10 exponent

/-!
## Numbers

A finite number is a sign, a mantissa and an exponent, kept as exact integers; arithmetic rounds the
exact result to the nearest number, a tie to the even mantissa.
-/

/-- A binary floating-point number.  The value of `finite s m e` is `m * 2 ^ e`, negated if `s`; in
the canonical form `m < 2 ^ 53` and `-1074 ≤ e`, and `e` is least unless `2 ^ 52 ≤ m`. -/
inductive Binary64 where
  | finite (negative : Bool) (mantissa : Nat) (exponent : Int)
  | infinite (negative : Bool)
  | nan
  deriving DecidableEq, Repr

/-- The quotient rounded to the nearest whole number, a tie to the even one. -/
def roundDiv (num den : Nat) : Nat :=
  let q := num / den
  let r := num % den
  if 2 * r < den then q
  else if den < 2 * r then q + 1
  else if q % 2 = 0 then q
  else q + 1

namespace Binary64

/-- The least exponent. -/
def minExponent : Int := -1074

/-- The greatest exponent. -/
def maxExponent : Int := 971

/-- The mantissas are below this bound. -/
def mantissaBound : Nat := twoTo 53

/-- The quotient `num / (den * 2 ^ e)` as a pair of natural numbers. -/
def scaleRatio (num den : Nat) : Int → Nat × Nat
  | .ofNat e => (num, den * twoTo e)
  | .negSucc e => (num * twoTo (e + 1), den)

/-- The exponent at which the mantissa of `num / den` is read off: the least one for which the
quotient, rounded down, has at most 53 bits. -/
def exponentOf (num den : Nat) : Int :=
  let e := max minExponent ((num.log2 : Int) - den.log2 - 53)
  let (n, d) := scaleRatio num den e
  if n / d < mantissaBound then e else e + 1

/-- The number nearest to `num / den`, for a positive `den`. -/
def ofRatio (negative : Bool) (num den : Nat) : Binary64 :=
  if num = 0 then .finite negative 0 minExponent
  else
    let e := exponentOf num den
    let (n, d) := scaleRatio num den e
    let m := roundDiv n d
    let (m, e) := if m = mantissaBound then (twoTo 52, e + 1) else (m, e)
    if maxExponent < e then .infinite negative else .finite negative m e

/-- The number nearest to a whole number. -/
def ofInt (n : Int) : Binary64 := ofRatio (decide (n < 0)) n.natAbs 1

/-- The size of a finite number as a quotient. -/
def ratio (mantissa : Nat) (exponent : Int) : Nat × Nat :=
  match exponent with
  | .ofNat e => (mantissa * twoTo e, 1)
  | .negSucc e => (mantissa, twoTo (e + 1))

/-- The product with a positive whole number, rounded. -/
def times (x : Binary64) (factor : Nat) : Binary64 :=
  match x with
  | .finite negative m e =>
    let (n, d) := ratio m e
    ofRatio negative (n * factor) d
  | x => x

/-- Zero of either sign. -/
def isZero : Binary64 → Bool
  | .finite _ m _ => m == 0
  | _ => false

/-- The number with the other sign. -/
def negate : Binary64 → Binary64
  | .finite negative m e => .finite (!negative) m e
  | .infinite negative => .infinite (!negative)
  | .nan => .nan

/-- A finite number as a quotient with its sign. -/
def toRatio? : Binary64 → Option (Int × Nat)
  | .finite negative m e =>
    let (n, d) := ratio m e
    some (if negative then -(n : Int) else n, d)
  | _ => none

/-- The sign of a number is negative. -/
def isNegative : Binary64 → Bool
  | .nan => false
  | .infinite negative | .finite negative _ _ => negative

/-- The sum, rounded; a sum of zero is negative only if both numbers are. -/
def add (x y : Binary64) : Binary64 :=
  match x.toRatio?, y.toRatio? with
  | some (n, d), some (m, e) =>
    let sum := n * e + m * d
    ofRatio (if sum = 0 then x.isNegative && y.isNegative else decide (sum < 0)) sum.natAbs (d * e)
  | some _, none => y
  | none, some _ => x
  | none, none => if x = y then x else .nan

/-- The product, rounded. -/
def multiply (x y : Binary64) : Binary64 :=
  let negative := x.isNegative != y.isNegative
  match x.toRatio?, y.toRatio? with
  | some (n, d), some (m, e) => ofRatio negative (n.natAbs * m.natAbs) (d * e)
  | _, _ => if x = .nan || y = .nan || x.isZero || y.isZero then .nan else .infinite negative

/-- The whole part; zero for what is not finite. -/
def truncate : Binary64 → Int
  | .finite negative m e =>
    let (n, d) := ratio m e
    if negative then -((n / d : Nat) : Int) else (n / d : Nat)
  | _ => 0

/-- What truncation cuts off. -/
def fraction : Binary64 → Binary64
  | .finite negative m e =>
    let (n, d) := ratio m e
    ofRatio negative (n % d) d
  | x => x

/-- Neither infinite nor not a number. -/
def isFinite : Binary64 → Bool
  | .finite .. => true
  | _ => false

end Binary64

/-!
## Quantities

A moment or a level is given as a whole number, which is exact, or as a floating-point one.
-/

/-- A whole or a floating-point number. -/
inductive Quantity where
  | whole (n : Int)
  | binary (x : Binary64)
  deriving DecidableEq, Repr

namespace Quantity

/-- The greatest whole number that is not larger; zero for what is not finite. -/
def floor : Quantity → Int
  | .whole n => n
  | .binary x =>
    match x.toRatio? with
    | some (n, d) => n.fdiv d
    | none => 0

/-- The number has no fraction. -/
def isWhole : Quantity → Bool
  | .whole _ => true
  | .binary x =>
    match x.toRatio? with
    | some (n, d) => n % d = 0
    | none => false

/-- The product with a positive whole number without its fraction; none if the product is not
finite. -/
def scaled? (q : Quantity) (factor : Nat) : Option Int :=
  match q with
  | .whole n => some (n * factor)
  | .binary x => if (x.times factor).isFinite then some (x.times factor).truncate else none

end Quantity

end StorageInventory.Number
