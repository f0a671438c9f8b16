import StorageInventory.Text.Basic
import StorageInventory.Text.Utf8

/-!
# Places and tags

Reading a document keeps count of the place, and what it reads first of a node is its tag.
-/

namespace StorageInventory.Yaml

/-!
## A place in a document

The layout of a YAML document carries meaning, so reading it keeps count of lines and columns.
-/

/-- The characters that end a line of a document. -/
def isBreak (c : Char) : Bool :=
  c = '\n' || c = '\r' || c = '\x85' || c = '\u2028' || c = '\u2029'

/-- What reading beyond the end gives; documents do not hold it. -/
def endMark : Char := '\x00'

/-- The end or the end of a line. -/
def isBreakOrEnd (c : Char) : Bool := isBreak c || c = endMark

/-- What may stand between two tokens: a space, a tab, the end or the end of a line. -/
def isGap (c : Char) : Bool := c = ' ' || c = '\t' || isBreakOrEnd c

/-- A place in a document: what is still to be read, and where that starts. -/
structure Cursor where
  rest : Text
  line : Nat := 0
  column : Nat := 0
  index : Nat := 0

namespace Cursor

/-- The character some places ahead. -/
def peek (c : Cursor) (ahead : Nat) : Char := (c.rest[ahead]?).getD endMark

/-- The character at the cursor. -/
def head (c : Cursor) : Char := c.peek 0

/-- Go past one character. -/
def next (c : Cursor) : Cursor :=
  match c.rest with
  | [] => c
  | ch :: rest =>
    if ch = '\n' || ch = '\x85' || ch = '\u2028' || ch = '\u2029'
        || (ch = '\r' && rest.head? != some '\n') then
      { rest, line := c.line + 1, column := 0, index := c.index + 1 }
    else
      { rest, line := c.line, index := c.index + 1
        column := if ch = '\uFEFF' then c.column else c.column + 1 }

/-- Go past several characters. -/
def skip (c : Cursor) : Nat → Cursor
  | 0 => c
  | n + 1 => c.next.skip n

/-- How many characters from the cursor on satisfy a test. -/
def count (c : Cursor) (test : Char → Bool) : Nat := (c.rest.takeWhile test).length

/-- Go past the characters that satisfy a test. -/
def skipWhile (c : Cursor) (test : Char → Bool) : Cursor := c.skip (c.count test)

/-- Take the line break at the cursor, if there is one: what it stands for, and the place after
it. -/
def takeBreak (c : Cursor) : Text × Cursor :=
  let ch := c.head
  if ch = '\r' && c.peek 1 = '\n' then (['\n'], c.skip 2)
  else if ch = '\r' || ch = '\n' || ch = '\x85' then (['\n'], c.next)
  else if ch = '\u2028' || ch = '\u2029' then ([ch], c.next)
  else ([], c)

/-- A document marker of three equal characters stands at the cursor. -/
def atMarker (c : Cursor) (ch : Char) : Bool :=
  c.peek 0 = ch && c.peek 1 = ch && c.peek 2 = ch && isGap (c.peek 3)

end Cursor

/-!
## Tags and directives

A tag in front of a node says what the node is.  It is written with a handle that stands for the
beginning of its name, or in full between angle brackets; bytes of its name may be written as two
hexadecimal digits after a percent sign.

Directives in front of a document tell its version and declare handles.
-/

/-- The value of a hexadecimal digit. -/
def hexValue? (c : Char) : Option Nat :=
  if c.isDigit then some (c.toNat - '0'.toNat)
  else if 'a' ≤ c && c ≤ 'f' then some (c.toNat - 'a'.toNat + 10)
  else if 'A' ≤ c && c ≤ 'F' then some (c.toNat - 'A'.toNat + 10)
  else none

/-- The number that hexadecimal digits write. -/
def readHex (digits : Text) : Option Nat :=
  digits.foldl (fun acc c => acc.bind fun n => (hexValue? c).map (16 * n + ·)) (some 0)

/-- The characters of the names of anchors, handles and directives. -/
def isNameChar (c : Char) : Bool := c.isAlphanum || c = '-' || c = '_'

/-- The characters of the names of tags. -/
def isTagChar (c : Char) : Bool :=
  c.isAlphanum || "-;/?:@&=+$,_.!~*'()[]%".toList.elem c

/-- The name of a tag with its escapes replaced, given the bytes of the escapes just before. -/
def unescapeTag : (bytes : List UInt8) → Text → Option Text
  | bytes, '%' :: a :: b :: rest =>
    match readHex [a, b] with
    | some n => unescapeTag (bytes ++ [n.toUInt8]) rest
    | none => none
  | _, '%' :: _ => none
  | bytes, c :: rest =>
    match Text.Utf8.decodeStrict bytes, unescapeTag [] rest with
    | .ok before, some after => some (before ++ c :: after)
    | _, _ => none
  | bytes, [] => (Text.Utf8.decodeStrict bytes).toOption

/-- Take the name of a tag, which must not be empty. -/
def takeTagName (text : Text) : Option (Text × Text) :=
  let word := text.takeWhile isTagChar
  if word = [] then none else (unescapeTag [] word).map fun name => (name, text.drop word.length)

/-- Take a handle: an exclamation mark before a space, or a name between two of them. -/
def takeHandle : Text → Option (Text × Text)
  | '!' :: rest =>
    if rest.head? = some ' ' then some (['!'], rest)
    else
      let name := rest.takeWhile isNameChar
      match rest.drop name.length with
      | '!' :: more => some ('!' :: name ++ ['!'], more)
      | _ => none
  | _ => none

/-- A tag: the rest of a name behind a handle, or a full name. -/
structure Tag where
  handle : Option Text
  name : Text
  deriving DecidableEq

/-- The tag that an exclamation mark alone stands for: that of the form of the node. -/
def formTag : Text := ['!']

/-- Take a tag. -/
def Tag.take (text : Text) : Option (Tag × Text) :=
  let rest := text.drop 1
  if rest.head? = some '<' then
    match takeTagName (rest.drop 1) with
    | some (name, '>' :: rest) => some ({ handle := none, name }, rest)
    | _ => none
  else if isGap (rest.headD endMark) then some ({ handle := none, name := formTag }, rest)
  else if (rest.takeWhile fun c => c ≠ ' ' && !isBreak c).elem '!' then do
    let (handle, rest) ← takeHandle text
    let (name, rest) ← takeTagName rest
    return ({ handle := some handle, name }, rest)
  else do
    let (name, rest) ← takeTagName rest
    return ({ handle := some ['!'], name }, rest)

/-- A directive. -/
inductive Directive where
  /-- The major version of the language. -/
  | version (major : Nat)
  /-- A handle, and the beginning of the names that it stands for. -/
  | handle (name stem : Text)
  /-- A directive that means nothing. -/
  | reserved
  deriving DecidableEq

namespace Directive

/-- Nothing but a comment is left of a line. -/
def isLineEnd (text : Text) : Bool :=
  (text = [] || text.head? = some ' ')
    && match text.dropWhile (· = ' ') with
      | [] => true
      | c :: _ => c = '#'

/-- The directive that tells the version. -/
def ofVersion (text : Text) : Option Directive :=
  let major := text.takeWhile Char.isDigit
  match text.drop major.length with
  | '.' :: rest =>
    let minor := rest.takeWhile Char.isDigit
    if major = [] || minor = [] || !isLineEnd (rest.drop minor.length) then none
    else some (.version (major.foldl (fun n c => 10 * n + (c.toNat - '0'.toNat)) 0))
  | _ => none

/-- The directive that declares a handle. -/
def ofHandle (text : Text) : Option Directive := do
  let (name, rest) ← takeHandle text
  if rest.head? ≠ some ' ' then none
  else
    let (stem, rest) ← takeTagName (rest.dropWhile (· = ' '))
    if isLineEnd rest then some (.handle name stem) else none

/-- The directive on a line, behind the percent sign. -/
def ofLine (line : Text) : Option Directive :=
  let name := line.takeWhile isNameChar
  let rest := line.drop name.length
  let content := rest.dropWhile (· = ' ')
  if name = [] || !(rest = [] || rest.head? = some ' ') then none
  else match String.ofList name with
    | "YAML" => ofVersion content
    | "TAG" => ofHandle content
    | _ => some .reserved

end Directive

end StorageInventory.Yaml
