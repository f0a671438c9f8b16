import StorageInventory.Number.Binary64
import StorageInventory.Number.Writing
import StorageInventory.Settings.Value
import StorageInventory.Text.Basic

/-!
# Templates

What log messages show, and how it is filled into their templates.
-/

namespace StorageInventory.Log

open Number (Binary64)
open Settings (Value)

/-!
## What log messages show

A placeholder shows a value, a fault or a group of things in parentheses.
-/

/-- What a placeholder can show. -/
inductive Item where
  | value (v : Value)
  | fault (f : Fault)
  | group (members : List Item)
  deriving Inhabited

namespace Item

/-- A text as an item. -/
def text (t : Text) : Item := .value (.text t)

/-- A whole number as an item. -/
def int (n : Int) : Item := .value (.int n)

/-- A quantity as an item. -/
def ofQuantity : Number.Quantity → Item
  | .whole n => int n
  | .binary x => .value (.float x)

/-- A text that may be missing. -/
def ofOption : Option Text → Item
  | none => .value .null
  | some t => text t

/-- The name of the kind of an item in messages. -/
def kindName : Item → Text
  | .value v => v.kind.fullName
  | .fault f => f.className
  | .group _ => "tuple".toList

mutual

/-- An item as it is shown inside another one. -/
def shown : Item → Except Fault Text
  | .value v => v.shown
  | .fault f => .ok f.shown
  | .group members =>
    match shownMembers members with
    | .error e => .error e
    | .ok [part] => .ok ('(' :: part ++ [',', ')'])
    | .ok parts => .ok ('(' :: ", ".toList.intercalate parts ++ [')'])

/-- The members of a group as they are shown. -/
def shownMembers : List Item → Except Fault (List Text)
  | [] => .ok []
  | item :: rest =>
    match shown item with
    | .error e => .error e
    | .ok part => (shownMembers rest).map (part :: ·)

end

/-- An item as text: a fault says what it reports, and a group is shown. -/
def toText : Item → Except Fault Text
  | .value v => v.toText
  | .fault f => .ok f.message
  | item => item.shown

end Item

/-!
## Filling templates

A template is a text with placeholders.  A placeholder starts with a percent sign and ends with a
letter that says how the value is written; between them may stand a key in parentheses, flags, a
width and a precision.  Two percent signs stand for one.

Values are given in order or by name.  Values given in order have to be used up exactly.
-/

/-- How a value is laid out. -/
structure Flags where
  left : Bool := false
  plus : Bool := false
  space : Bool := false
  alternate : Bool := false
  zero : Bool := false

/-- A placeholder whose width and precision are known. -/
structure Placeholder where
  flags : Flags
  width : Nat
  precision : Option Nat
  letter : Char
  /-- Where the letter stands in the template. -/
  position : Nat

/-- The values for a template: a list of them, or names for them with what all of them are as one
item. -/
inductive Values where
  | inOrder (items : List Item)
  | byName (find : Text → Option Item) (all : Item)

/-! ### Taking values -/

/-- The values that are left while a template is filled. -/
structure Supply where
  /-- How values are found by name, if they have names. -/
  find : Option (Text → Option Item)
  /-- The values that placeholders without a key take. -/
  waiting : List Item

/-- The supply at the beginning. -/
def Values.supply : Values → Supply
  | .inOrder items => { find := none, waiting := items }
  | .byName find all => { find := some find, waiting := [all] }

namespace Supply

/-- Take the next value. -/
def next (s : Supply) : Except Fault (Item × Supply) :=
  match s.waiting with
  | [] => .error .notEnoughValues
  | item :: rest => .ok (item, { s with waiting := rest })

/-- Let the value of a name wait, and no other. -/
def select (s : Supply) (find : Text → Option Item) (key : Text) : Except Fault Supply :=
  match find key with
  | none => .error (.missingKey key)
  | some item => .ok { s with waiting := [item] }

/-- All values are used; only values without names have to be. -/
def finish (s : Supply) : Except Fault Unit :=
  if s.find.isNone && !s.waiting.isEmpty then .error .tooManyValues else .ok ()

end Supply

/-! ### Reading placeholders -/

/-- The key up to the parenthesis that closes it, and what follows. -/
def takeKey : Nat → Text → Option (Text × Text)
  | _, [] => none
  | depth, c :: rest =>
    if c = ')' && depth = 0 then some ([], rest)
    else
      let depth := if c = '(' then depth + 1 else if c = ')' then depth - 1 else depth
      (takeKey depth rest).map fun (key, rest) => (c :: key, rest)

/-- Take a key in parentheses, if there is one, and select its value. -/
def takeSelection (s : Supply) : Text → Except Fault (Supply × Text)
  | '(' :: rest =>
    match s.find with
    | none => .error .placeholderNeedsMapping
    | some find =>
      match takeKey 0 rest with
      | none => .error .incompleteKey
      | some (key, rest) => (s.select find key).map fun s => (s, rest)
  | text => .ok (s, text)

/-- Take the flags. -/
def takeFlags (flags : Flags) : Text → Flags × Text
  | '-' :: rest => takeFlags { flags with left := true } rest
  | '+' :: rest => takeFlags { flags with plus := true } rest
  | ' ' :: rest => takeFlags { flags with space := true } rest
  | '#' :: rest => takeFlags { flags with alternate := true } rest
  | '0' :: rest => takeFlags { flags with zero := true } rest
  | text => (flags, text)

/-- Take a number in ASCII digits. -/
def takeNumber (text : Text) : Option Nat × Text :=
  let digits := text.takeWhile Char.isDigit
  (if digits = [] then none else some (Number.ofDigits (digits.map (·.toNat - '0'.toNat))),
    text.drop digits.length)

/-- The least and the greatest number that a width or a precision can be. -/
structure MeasureLimits where
  /-- Numbers from here on, and below its negative, have too many bits. -/
  bound : Nat
  /-- The fault of digits for a larger number. -/
  tooBig : Fault
  /-- The fault of a value out of range. -/
  outOfRange : Fault

/-- Widths have 64 bits. -/
def widthLimits : MeasureLimits := ⟨Number.twoTo 63, .widthTooBig, .widthOutOfRange⟩

/-- Precisions have 32 bits. -/
def precisionLimits : MeasureLimits := ⟨Number.twoTo 31, .precisionTooBig, .precisionOutOfRange⟩

/-- A number that is given as a value. -/
def measureOf (limits : MeasureLimits) : Item → Except Fault Int
  | .value (.bool b) => .ok (if b then 1 else 0)
  | .value (.int n) =>
    if n < -(limits.bound : Int) || (limits.bound : Int) ≤ n then .error limits.outOfRange
      else .ok n
  | _ => .error .widthNeedsInteger

/-- Take a width or a precision: none, digits, or a star for the next value. -/
def takeMeasure (limits : MeasureLimits) (s : Supply) :
    Text → Except Fault (Option Int × Supply × Text)
  | '*' :: rest => do
    let (item, s) ← s.next
    let n ← measureOf limits item
    return (some n, s, rest)
  | text =>
    match takeNumber text with
    | (none, rest) => .ok (none, s, rest)
    | (some n, rest) =>
      if limits.bound ≤ n then .error limits.tooBig else .ok (some (n : Int), s, rest)

/-- Take a precision behind a point, if there is one; a point alone is a precision of zero. -/
def takePrecision (s : Supply) : Text → Except Fault (Option Int × Supply × Text)
  | '.' :: rest => do
    let (n, s, rest) ← takeMeasure precisionLimits s rest
    return (some (n.getD 0), s, rest)
  | text => .ok (none, s, text)

/-- Skip a letter that tells a size, which means nothing here. -/
def skipSize : Text → Text
  | 'h' :: rest | 'l' :: rest | 'L' :: rest => rest
  | text => text

/-- Take a placeholder, from the place after its percent sign; `total` is the length of the whole
template.  A negative width asks for filling on the right. -/
def takePlaceholder (total : Nat) (s : Supply) (text : Text) :
    Except Fault (Placeholder × Supply × Text) := do
  let (s, text) ← takeSelection s text
  let (flags, text) := takeFlags {} text
  let (width, s, text) ← takeMeasure widthLimits s text
  let (precision, s, text) ← takePrecision s text
  let width := width.getD 0
  match skipSize text with
  | [] => throw .incompletePlaceholder
  | letter :: rest =>
    let flags := if width < 0 then { flags with left := true } else flags
    return ({ flags, width := width.natAbs, precision := precision.map Int.toNat, letter
              position := total - (rest.length + 1) }, s, rest)

/-! ### Writing values -/

/-- Fill a text with spaces up to a width. -/
def pad (flags : Flags) (width : Nat) (text : Text) : Text :=
  let fill := List.replicate (width - text.length) ' '
  if flags.left then text ++ fill else fill ++ text

/-- Fill a number up to a width: with zeros behind its sign, or with spaces. -/
def padNumber (flags : Flags) (width : Nat) (negative : Bool) (lead digits : Text) : Text :=
  let sign := if negative then ['-'] else if flags.plus then ['+'] else if flags.space then [' ']
    else []
  let zeros :=
    if flags.zero && !flags.left then
      List.replicate (width - (sign.length + lead.length + digits.length)) '0'
    else []
  pad flags width (sign ++ lead ++ zeros ++ digits)

/-- The whole number for a whole-number letter; a decimal only counts as one in base ten. -/
def wholeNumber (letter : Char) (item : Item) : Except Fault Int :=
  let inBaseTen := !"xXo".toList.elem letter
  match item with
  | .value (.bool b) => (Value.bool b).toInteger
  | .value (.int n) => .ok n
  | .value (.float x) =>
    if inBaseTen then (Value.float x).toInteger
    else .error (.conversionNeedsInteger letter item.kindName)
  | _ =>
    .error (if inBaseTen then .conversionNeedsNumber letter item.kindName
      else .conversionNeedsInteger letter item.kindName)

/-- Write a whole number; in base ten it must not have too many digits. -/
def writeWhole (p : Placeholder) (n : Int) : Except Fault Text :=
  let (base, lead) : Nat × Text :=
    if p.letter = 'x' then (16, ['0', 'x']) else if p.letter = 'X' then (16, ['0', 'X'])
    else if p.letter = 'o' then (8, ['0', 'o']) else (10, [])
  let digits := Nat.toDigits base n.natAbs
  if base = 10 && Number.digitLimit < digits.length then .error .integerTooLongToWrite
  else
    let digits := if p.letter = 'X' then digits.map Char.toUpper else digits
    let digits := List.replicate (p.precision.getD 0 - digits.length) '0' ++ digits
    .ok (padNumber p.flags p.width (n < 0) (if p.flags.alternate then lead else []) digits)

/-- The digits of a decimal without its sign. -/
def decimalDigits (p : Placeholder) : Binary64 → Text
  | .nan => "nan".toList
  | .infinite _ => "inf".toList
  | .finite _ m e =>
    let (num, den) := Binary64.ratio m e
    let places := p.precision.getD 6
    if p.letter = 'f' || p.letter = 'F' then Number.fixedText num den places p.flags.alternate
    else if p.letter = 'e' || p.letter = 'E' then Number.powerText num den places p.flags.alternate
    else Number.significantText num den places p.flags.alternate

/-- Write a decimal. -/
def writeDecimal (p : Placeholder) (x : Binary64) : Text :=
  let digits := decimalDigits p x
  padNumber p.flags p.width x.isNegative []
    (if p.letter.isUpper then digits.map Char.toUpper else digits)

/-- The decimal for a decimal letter. -/
def decimalNumber : Item → Except Fault Binary64
  | .value (.float x) => .ok x
  | .value (.int n) =>
    match Binary64.ofInt n with
    | .infinite _ => .error .integerTooLargeForDecimal
    | x => .ok x
  | .value (.bool b) => .ok (.ofInt (if b then 1 else 0))
  | item => .error (.conversionNeedsReal item.kindName)

/-- A text in ASCII: other characters escaped. -/
def toAscii (text : Text) : Text :=
  text.flatMap fun c =>
    if c.toNat < 0x80 then [c]
    else if c.toNat < 0x100 then '\\' :: 'x' :: Text.ofNatHex 2 c.toNat
    else if c.toNat < 0x10000 then '\\' :: 'u' :: Text.ofNatHex 4 c.toNat
    else '\\' :: 'U' :: Text.ofNatHex 8 c.toNat

/-- Write a character. -/
def writeCharacter : Item → Except Fault Text
  | .value (.text [c]) => .ok [c]
  | .value (.int n) =>
    if 0 ≤ n && n < 0x110000 then .ok [Char.ofNat n.toNat] else .error .characterOutOfRange
  | .value (.bool b) => .ok [Char.ofNat (if b then 1 else 0)]
  | _ => .error .conversionNeedsCharacter

/-- Cut a text to the precision and fill it up to the width. -/
def fitText (p : Placeholder) (text : Text) : Text :=
  pad p.flags p.width (match p.precision with
    | some n => text.take n
    | none => text)

/-- Write an item as a placeholder asks for. -/
def writeItem (p : Placeholder) (item : Item) : Except Fault Text :=
  if p.letter = 's' then item.toText.map (fitText p)
  else if p.letter = 'r' then item.shown.map (fitText p)
  else if p.letter = 'a' then item.shown.map fun text => fitText p (toAscii text)
  else if "diuxXo".toList.elem p.letter then wholeNumber p.letter item >>= writeWhole p
  else if "eEfFgG".toList.elem p.letter then (decimalNumber item).map (writeDecimal p)
  else if p.letter = 'c' then (writeCharacter item).map (pad p.flags p.width)
  else .error (.unknownConversion p.letter p.position)

/-! ### Filling a template -/

/-- Fill the placeholders of a text; the first argument bounds the length of the text. -/
def fillFrom (total : Nat) : Nat → Text → Supply → Except Fault Text
  | _, [], s => s.finish.map fun _ => []
  | 0, _ :: _, _ => .ok []
  | fuel + 1, '%' :: '%' :: rest, s => (fillFrom total fuel rest s).map ('%' :: ·)
  | fuel + 1, '%' :: rest, s => do
    let (p, s, rest) ← takePlaceholder total s rest
    let (item, s) ← s.next
    let text ← writeItem p item
    return text ++ (← fillFrom total fuel rest s)
  | fuel + 1, c :: rest, s => (fillFrom total fuel rest s).map (c :: ·)

/-- Fill a template. -/
def fill (template : Text) (values : Values) : Except Fault Text :=
  fillFrom template.length template.length template values.supply

end StorageInventory.Log
