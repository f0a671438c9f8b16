import StorageInventory.Number.Numeral
import StorageInventory.Settings.Value
import StorageInventory.Text.Case
import StorageInventory.Yaml.Timestamp

/-!
# Scalars

A scalar without quotes stands for null, a truth value, a number, a moment or a text, by its form
alone; a tag asks for one of these whatever the form.
Whole numbers are written in base ten, two, eight, sixteen or sixty; decimals need a point, and an
exponent of a decimal needs a sign.  Underscores in numbers are ignored.
-/

namespace StorageInventory.Yaml

open Settings (Value)
open Number (Binary64)

/-- What a plain scalar stands for: a value, or one of the two marks that have a meaning as keys. -/
inductive Plain where
  | value (v : Value)
  /-- The key whose value is merged into the mapping. -/
  | merge
  /-- The key that stands for the default value. -/
  | default

/-- The three spellings of a word. -/
def spellings (word : String) : List Text :=
  [word.toList, word.toList.mapIdx fun i c => if i = 0 then c.toUpper else c,
    word.toList.map Char.toUpper]

/-- The words for true. -/
def trueWords : List Text := ["yes", "true", "on"].flatMap spellings

/-- The words for false. -/
def falseWords : List Text := ["no", "false", "off"].flatMap spellings

/-- The words for null. -/
def nullWords : List Text := [[], ['~']] ++ spellings "null"

/-- The digits of a base, an underscore among them. -/
def isBaseDigit (base : Nat) (c : Char) : Bool :=
  c = '_' || (c.isDigit && c.toNat - '0'.toNat < base)
    || (base = 16 && (('a' ≤ c && c ≤ 'f') || ('A' ≤ c && c ≤ 'F')))

/-- The value of a digit in bases up to sixteen. -/
def digitValue (c : Char) : Nat :=
  if c.isDigit then c.toNat - '0'.toNat
  else if 'a' ≤ c && c ≤ 'f' then c.toNat - 'a'.toNat + 10
  else c.toNat - 'A'.toNat + 10

/-- Digits and underscores, starting with a digit. -/
def isDigits (text : Text) : Bool :=
  match text with
  | [] => false
  | c :: rest => c.isDigit && rest.all (isBaseDigit 10)

/-- Split off a sign. -/
def splitSign (text : Text) : Bool × Text :=
  match text with
  | '-' :: rest => (true, rest)
  | '+' :: rest => (false, rest)
  | _ => (false, text)

/-- A part of a number in base sixty: one or two digits below sixty. -/
def isSixtieth (text : Text) : Bool :=
  match text with
  | [a] => a.isDigit
  | [a, b] => '0' ≤ a && a ≤ '5' && b.isDigit
  | _ => false

/-- The form of a whole number without its sign. -/
def isInteger (text : Text) : Bool :=
  match text with
  | ['0'] => true
  | '0' :: 'b' :: rest => !rest.isEmpty && rest.all (isBaseDigit 2)
  | '0' :: 'x' :: rest => !rest.isEmpty && rest.all (isBaseDigit 16)
  | '0' :: rest => rest.all (isBaseDigit 8)
  | c :: _ =>
    c.isDigit && match Text.fields ':' text with
      | [whole] => isDigits whole
      | first :: rest => isDigits first && rest.all isSixtieth
      | [] => false
  | [] => false

/-- The number that digits write in a base; no digits at all write none. -/
def readBase (base : Nat) (digits : Text) : Except Fault Int :=
  if digits = [] then .error (.notInteger base digits)
  else
    let n : Nat := digits.foldl (fun n c => base * n + digitValue c) 0
    .ok n

/-- Read a decimal whole number. -/
def readPart (digits : Text) : Except Fault Int :=
  match Number.readInteger digits with
  | .ok n => .ok n
  | .error error => .error (Fault.ofIntegerError digits error)

/-- Read the parts of a number in base sixty. -/
def readSixtieths (parts : List Text) : Except Fault Int :=
  parts.foldl (fun acc part =>
    match acc, readPart part with
    | .ok n, .ok d => .ok (60 * n + d)
    | .error fault, _ => .error fault
    | _, .error fault => .error fault) (.ok 0)

/-- The value of a whole number without its sign. -/
def readInteger (text : Text) : Except Fault Int :=
  match text.filter (· ≠ '_') with
  | ['0'] => .ok 0
  | '0' :: 'b' :: digits => readBase 2 digits
  | '0' :: 'x' :: digits => readBase 16 digits
  | '0' :: digits => readBase 8 ('0' :: digits)
  | digits => readSixtieths (Text.fields ':' digits)

/-- The exponent of a decimal, which may be missing. -/
def isExponent (text : Text) : Bool :=
  match text with
  | [] => true
  | [_] => false
  | e :: sign :: digits =>
    (e = 'e' || e = 'E') && (sign = '+' || sign = '-') && !digits.isEmpty && digits.all Char.isDigit

/-- The form of a decimal, after its sign. -/
def isDecimal (signed : Bool) (text : Text) : Bool :=
  let whole := text.takeWhile (isBaseDigit 10)
  match text.drop whole.length with
  | '.' :: rest =>
    let fraction := rest.takeWhile (isBaseDigit 10)
    isExponent (rest.drop fraction.length)
      && if whole = [] then !signed && isDigits fraction else isDigits whole
  | _ => false

/-- The form of a decimal in base sixty, after its sign. -/
def isSixtyDecimal (text : Text) : Bool :=
  match (Text.fields ':' text).reverse with
  | last :: first :: more =>
    let whole := last.takeWhile Char.isDigit
    let parts := (first :: more).reverse
    (match last.drop whole.length with
      | '.' :: fraction => fraction.all (isBaseDigit 10)
      | _ => false)
    && isSixtieth whole && isDigits (parts.headD []) && parts.tail.all isSixtieth
  | _ => false

/-- The digits of a decimal and its power of ten. -/
def readDecimal (text : Text) : Number.Decimal :=
  (Number.readDecimal (text.filter (· ≠ '_'))).getD ⟨[0], 0⟩

/-- The sum of the parts of a decimal in base sixty, the last one first, each times its power of
sixty.  Every step is rounded, and a power beyond the floating-point numbers is refused. -/
def sumSixtieths : (power : Nat) → List Binary64 → Binary64 → Except Fault Binary64
  | _, [], sum => .ok sum
  | power, part :: rest, sum =>
    match Binary64.ofInt power with
    | .infinite _ => .error .integerTooLargeForDecimal
    | factor => sumSixtieths (60 * power) rest (sum.add (part.multiply factor))

/-- The value of a decimal in base sixty. -/
def readSixtyDecimal (negative : Bool) (text : Text) : Except Fault Binary64 :=
  let parts := (Text.fields ':' (text.filter (· ≠ '_'))).map fun part =>
    (readDecimal part).toBinary64 false
  (sumSixtieths 1 parts.reverse (.ofInt 0)).map fun sum => if negative then sum.negate else sum

/-- The words for infinity, after the sign. -/
def infinityWords : List Text := [".inf", ".Inf", ".INF"].map String.toList

/-- The words for not-a-number. -/
def nanWords : List Text := [".nan", ".NaN", ".NAN"].map String.toList

/-- What a plain scalar stands for. -/
def resolvePlain (text : Text) : Except Fault Plain :=
  let (negative, body) := splitSign text
  let signed := body.length < text.length
  if trueWords.elem text then .ok (.value (.bool true))
  else if falseWords.elem text then .ok (.value (.bool false))
  else if isDecimal signed body then
    .ok (.value (.float ((readDecimal body).toBinary64 negative)))
  else if isSixtyDecimal body then
    (readSixtyDecimal negative body).map fun x => .value (.float x)
  else if infinityWords.elem body then .ok (.value (.float (.infinite negative)))
  else if nanWords.elem text then .ok (.value (.float .nan))
  else if isInteger body then
    match readInteger body with
    | .ok n => .ok (.value (.int (if negative then -n else n)))
    | .error fault => .error fault
  else if text = "<<".toList then .ok .merge
  else if nullWords.elem text then .ok (.value .null)
  else match Timestamp.fieldsOf? text with
    | some fields => fields.moment.map fun m => .value (.moment m)
    | none =>
      if text = "=".toList then .ok .default
      else .ok (.value (.text text))

/-! ## Scalars with a tag -/

/-- Without underscores, split into its sign and what follows, of which something must be left. -/
def signedBody (text : Text) : Except Fault (Bool × Text) :=
  let (negative, body) := splitSign (text.filter (· ≠ '_'))
  if body = [] then .error .emptyNumber else .ok (negative, body)

/-- The digits of a base, all of them. -/
def readDigits (base : Nat) (digits : Text) : Except Fault Int :=
  if digits.all (isBaseDigit base) then readBase base digits else .error (.notInteger base digits)

/-- The whole number that a tag asks for. -/
def taggedInteger (text : Text) : Except Fault Value := do
  let (negative, body) ← signedBody text
  let n ← match body with
    | '0' :: 'b' :: digits => readDigits 2 digits
    | '0' :: 'x' :: digits => readDigits 16 digits
    | '0' :: _ => readDigits 8 body
    | _ => readSixtieths (Text.fields ':' body)
  return .int (if negative then -n else n)

/-- The decimal in a part of a number. -/
def readPartDecimal (part : Text) : Except Fault Binary64 :=
  match Number.readBinary64 part with
  | some x => .ok x
  | none => .error (.notDecimal part)

/-- The decimal that a tag asks for. -/
def taggedDecimal (text : Text) : Except Fault Value := do
  let (negative, body) ← signedBody (Text.lower text)
  let x ← if infinityWords.elem body then .ok (.infinite false)
    else if nanWords.elem body then .ok .nan
    else match Text.fields ':' body with
      | [part] => readPartDecimal part
      | parts =>
        parts.mapM readPartDecimal >>= fun parts => sumSixtieths 1 parts.reverse (.ofInt 0)
  return .float (if negative then x.negate else x)

/-- The truth value that a tag asks for. -/
def taggedTruth (text : Text) : Except Fault Value :=
  let word := Text.lower text
  if trueWords.elem word then .ok (.bool true)
  else if falseWords.elem word then .ok (.bool false)
  else .error (.missingKey word)

/-- The moment that a tag asks for; a date alone may have a month or a day of one digit. -/
def taggedMoment (text : Text) : Except Fault Value :=
  match Timestamp.looseFieldsOf? text with
  | some fields => fields.moment.map .moment
  | none => .error .notTimestamp

/-- The standard tags of scalars, and what they ask for. -/
def scalarTags : List (String × (Text → Except Fault Value)) :=
  [ ("str", fun text => .ok (.text text)), ("null", fun _ => .ok .null), ("bool", taggedTruth),
    ("int", taggedInteger), ("float", taggedDecimal), ("timestamp", taggedMoment) ]

end StorageInventory.Yaml
