/-!
# Text as a list of characters

Every text that the library reads or writes is a list of Unicode code points, so that a law about
text is an induction on a list.  This module holds what all others use:

* `Text.includes` and `Text.replaceAll` look for a piece anywhere in a text,
* `Text.fields` cuts at every occurrence of one character,
* `Text.le` is the order by code point,
* `Text.ofNat` and `Text.ofInt` write numbers in base ten,
* `Text.trim` and `Text.tokens` drop blanks, and `Text.lines` cuts into lines,
* `Text.decimalDigit?` and `Text.isDigitLike` tell digits of any script.
-/

namespace StorageInventory

/-! ## Operations for all characters -/

/-- A text: its code points in order. -/
abbrev Text := List Char

namespace Text

/-- The piece occurs somewhere in the text. -/
def includes (piece : Text) : Text → Bool
  | [] => piece.isEmpty
  | c :: rest => piece.isPrefixOf (c :: rest) || includes piece rest

/-- Replace the occurrences of `old` found from left to right; the first argument counts the
characters that still belong to the occurrence replaced last. -/
def replaceFrom (old new : Text) : Nat → Text → Text
  | _, [] => []
  | skip + 1, _ :: rest => replaceFrom old new skip rest
  | 0, c :: rest =>
    if old.isPrefixOf (c :: rest) then new ++ replaceFrom old new (old.length - 1) rest
    else c :: replaceFrom old new 0 rest

/-- Replace every occurrence of the non-empty piece `old` by `new`. -/
def replaceAll (old new : Text) (text : Text) : Text :=
  replaceFrom old new 0 text

/-- Cut a text at every occurrence of `separator`; the empty text is one empty field. -/
def fields (separator : Char) : Text → List Text
  | [] => [[]]
  | c :: rest =>
    if c = separator then [] :: fields separator rest
    else match fields separator rest with
      | [] => [[c]]
      | field :: more => (c :: field) :: more

/-- The order of texts by code point, a proper beginning first. -/
def le : Text → Text → Bool
  | [], _ => true
  | _ :: _, [] => false
  | a :: as, b :: bs => if a = b then le as bs else a.toNat < b.toNat

/-- A number in base ten. -/
def ofNat (n : Nat) : Text := Nat.toDigits 10 n

/-- A whole number in base ten, a minus sign in front of a negative one. -/
def ofInt : Int → Text
  | .ofNat n => ofNat n
  | .negSucc n => '-' :: ofNat (n + 1)

/-- A number in base ten, filled with zeros on the left up to the given width. -/
def ofNatPadded (width : Nat) (n : Nat) : Text :=
  let digits := ofNat n
  List.replicate (width - digits.length) '0' ++ digits

/-- A number in base sixteen with lower-case digits, filled with zeros on the left. -/
def ofNatHex (width : Nat) (n : Nat) : Text :=
  let digits := Nat.toDigits 16 n
  List.replicate (width - digits.length) '0' ++ digits

/-- There is at least one field, even of the empty text. -/
theorem fields_ne_nil (separator : Char) (text : Text) : fields separator text ≠ [] := by
  cases text with
  | nil => simp [fields]
  | cons c rest =>
    rw [fields]
    split
    · simp
    · split <;> simp

/-!
## Blank characters, trimming and tokens

The blank characters are the twenty-nine code points with the Unicode white-space property or one of
the four information separators.  Everything that cuts a line into words uses this one set:

* `trim` drops the blanks at both ends,
* `tokens` lists the maximal runs of characters that are not blank.
-/

/-- The blank characters. -/
def isBlank (c : Char) : Bool :=
  let n := c.toNat
  n == 0x20 || (0x09 ≤ n && n ≤ 0x0D) || (0x1C ≤ n && n ≤ 0x1F)
    || n == 0x85 || n == 0xA0 || n == 0x1680 || (0x2000 ≤ n && n ≤ 0x200A)
    || n == 0x2028 || n == 0x2029 || n == 0x202F || n == 0x205F || n == 0x3000

/-- Drop the blanks in front. -/
def trimStart (text : Text) : Text := text.dropWhile isBlank

/-- Drop the blanks at the end. -/
def trimEnd : Text → Text
  | [] => []
  | c :: rest =>
    match trimEnd rest with
    | [] => if isBlank c then [] else [c]
    | kept => c :: kept

/-- Drop the blanks at both ends. -/
def trim (text : Text) : Text := trimEnd (trimStart text)

/-- Put `c`, which is not blank, in front of a text with the given tokens: it extends the first
token if the text starts with it, and is a token of its own otherwise. -/
def consToken (c : Char) (rest : Text) (tokens : List Text) : List Text :=
  match rest, tokens with
  | d :: _, token :: more => if isBlank d then [c] :: tokens else (c :: token) :: more
  | _, _ => [c] :: tokens

/-- The maximal runs of characters that are not blank, in order. -/
def tokens : Text → List Text
  | [] => []
  | c :: rest => if isBlank c then tokens rest else consToken c rest (tokens rest)

/-- The last token, or the empty text if there is none. -/
def lastToken (text : Text) : Text := (tokens text).getLastD []

/-- A blank in front of a text makes no token. -/
theorem tokens_blank_cons {c : Char} (h : isBlank c = true) (rest : Text) :
    tokens (c :: rest) = tokens rest := by
  simp [tokens, h]

/-- A single character that is not blank is one token. -/
theorem tokens_singleton {c : Char} (h : isBlank c = false) : tokens [c] = [[c]] := by
  simp [tokens, h, consToken]

/-!
## Lines

Text arrives with any of the usual line ends.  `unifyLineEnds` makes every carriage return, alone or
before a line feed, one line feed, which is what reading in text mode does.  `lines` then cuts at
all line boundaries of Unicode; a boundary ends a line, so no empty line follows the last one.
-/

/-- The characters that end a line. -/
def isLineBreak (c : Char) : Bool :=
  let n := c.toNat
  (0x0A ≤ n && n ≤ 0x0D) || (0x1C ≤ n && n ≤ 0x1E) || n == 0x85 || n == 0x2028 || n == 0x2029

/-- Make every `\r\n` and every other `\r` one `\n`. -/
def unifyLineEnds : Text → Text
  | [] => []
  | '\r' :: '\n' :: rest => '\n' :: unifyLineEnds rest
  | c :: rest => (if c = '\r' then '\n' else c) :: unifyLineEnds rest

/-- The lines of a text.  A carriage return and the line feed after it are one boundary. -/
def lines : Text → List Text
  | [] => []
  | '\r' :: '\n' :: rest => [] :: lines rest
  | c :: rest =>
    if isLineBreak c then [] :: lines rest
    else match lines rest with
      | [] => [[c]]
      | line :: more => (c :: line) :: more

/-- A line boundary in front of a text ends an empty line. -/
theorem lines_break {c : Char} (h : isLineBreak c = true) (hc : c ≠ '\r') (rest : Text) :
    lines (c :: rest) = [] :: lines rest := by
  cases rest with
  | nil => simp [lines, h]
  | cons d more =>
    rw [lines]
    · simp [h]
    · intro _ h1 _; exact hc h1

/-- Lines, each with its end. -/
def unlines (lines : List Text) : Text := lines.flatMap (· ++ ['\n'])

/-!
## Decimal digits and digit-like characters

Two classes of characters meet in device names and numerals.

* The *decimal digits* (Unicode category Nd) come in runs of ten with the values zero to nine; they
  are what a numeral is written with, and `decimalDigit?` gives their value.
* The *digit-like* characters are the decimal digits and the others whose numeric type is Digit:
  superscripts, subscripts, circled and dotted digits.  They look like digits to a class test and
  have no place in a numeral.
-/

/-- The zeros of the runs of ten decimal digits, in increasing order. -/
def decimalZeros : List Nat :=
  [0x30, 0x660, 0x6F0, 0x7C0, 0x966, 0x9E6, 0xA66, 0xAE6, 0xB66, 0xBE6, 0xC66, 0xCE6, 0xD66, 0xDE6,
   0xE50, 0xED0, 0xF20, 0x1040, 0x1090, 0x17E0, 0x1810, 0x1946, 0x19D0, 0x1A80, 0x1A90, 0x1B50,
   0x1BB0, 0x1C40, 0x1C50, 0xA620, 0xA8D0, 0xA900, 0xA9D0, 0xA9F0, 0xAA50, 0xABF0, 0xFF10, 0x104A0,
   0x10D30, 0x11066, 0x110F0, 0x11136, 0x111D0, 0x112F0, 0x11450, 0x114D0, 0x11650, 0x116C0,
   0x11730, 0x118E0, 0x11950, 0x11C50, 0x11D50, 0x11DA0, 0x16A60, 0x16AC0, 0x16B50, 0x1D7CE,
   0x1D7D8, 0x1D7E2, 0x1D7EC, 0x1D7F6, 0x1E140, 0x1E2F0, 0x1E950, 0x1FBF0]

/-- The offset of a code point in the run of ten that holds it; the zeros are increasing. -/
def offsetInRun (n : Nat) : List Nat → Option Nat
  | [] => none
  | start :: more =>
    if n < start then none
    else if n < start + 10 then some (n - start)
    else offsetInRun n more

/-- The value of a decimal digit. -/
def decimalDigit? (c : Char) : Option Nat := offsetInRun c.toNat decimalZeros

/-- A decimal digit of any script. -/
def isDecimal (c : Char) : Bool := (decimalDigit? c).isSome

/-- The ranges of characters of numeric type Digit that are no decimal digits, increasing. -/
def digitOnlyRanges : List (Nat × Nat) :=
  [(0xB2, 0xB3), (0xB9, 0xB9), (0x1369, 0x1371), (0x19DA, 0x19DA), (0x2070, 0x2070),
   (0x2074, 0x2079), (0x2080, 0x2089), (0x2460, 0x2468), (0x2474, 0x247C), (0x2488, 0x2490),
   (0x24EA, 0x24EA), (0x24F5, 0x24FD), (0x24FF, 0x24FF), (0x2776, 0x277E), (0x2780, 0x2788),
   (0x278A, 0x2792), (0x10A40, 0x10A43), (0x10E60, 0x10E68), (0x11052, 0x1105A), (0x1F100, 0x1F10A)]

/-- A code point lies in one of the ranges, which are increasing. -/
def inRanges (n : Nat) : List (Nat × Nat) → Bool
  | [] => false
  | (first, last) :: more => if n < first then false else n ≤ last || inRanges n more

/-- A decimal digit, or another character of numeric type Digit. -/
def isDigitLike (c : Char) : Bool := isDecimal c || inRanges c.toNat digitOnlyRanges

end Text

end StorageInventory
