import StorageInventory.Yaml.Tag

/-!
# Pieces of a document

The texts of scalars: plain ones, which end where something else begins; quoted ones; and those made
of whole lines.  Each function here takes a piece at the cursor and gives its text and the place
after it; a number bounds what is left of the document.
-/

namespace StorageInventory.Yaml

/-! ## Plain scalars -/

/-- Line breaks and the spaces after them, in a plain scalar; `none` if a document marker
follows. -/
def plainBreaks : Nat → Cursor → Text → Option (Text × Cursor)
  | 0, c, breaks => some (breaks, c)
  | fuel + 1, c, breaks =>
    if c.head = ' ' then plainBreaks fuel c.next breaks
    else if isBreak c.head then
      let (b, c) := c.takeBreak
      if c.atMarker '-' || c.atMarker '.' then none else plainBreaks fuel c (breaks ++ b)
    else some (breaks, c)

/-- What a run of breaks stands for: one line feed is a space, further ones stand for themselves. -/
def foldBreaks (first breaks : Text) : Text :=
  if first ≠ ['\n'] then first ++ breaks else if breaks = [] then [' '] else breaks

/-- The gap after a piece of a plain scalar: its text (`none` if the scalar ends at a document
marker, empty if there is no gap), whether it has a line break, and the place after it. -/
def plainGap (fuel : Nat) (c : Cursor) : Option Text × Bool × Cursor :=
  let spaces := c.count (· = ' ')
  let after := c.skip spaces
  if isBreak after.head then
    let (first, next) := after.takeBreak
    if next.atMarker '-' || next.atMarker '.' then (none, true, next)
    else match plainBreaks fuel next [] with
      | none => (none, true, next)
      | some (breaks, place) => (some (foldBreaks first breaks), true, place)
  else (some (List.replicate spaces ' '), false, after)

/-- The length of a piece of a plain scalar without gaps. -/
def plainLength (inFlow : Bool) : Text → Nat
  | [] => 0
  | ch :: rest =>
    let follower := rest.headD endMark
    if isGap ch then 0
    else if ch = ':' && (isGap follower || (inFlow && ",[]\x7b\x7d".toList.elem follower)) then 0
    else if inFlow && ",?[]\x7b\x7d".toList.elem ch then 0
    else plainLength inFlow rest + 1

/-- The rest of a plain scalar behind what is done of it, in reverse: its text, whether a line break
stands in or after it, and the place after it.  Lines that go on must be indented. -/
def plainScalar (inFlow : Bool) (indent : Int) :
    Nat → Cursor → (gap : Text) → (broken : Bool) → (done : Text) → Text × Bool × Cursor
  | 0, c, _, broken, done => (done.reverse, broken, c)
  | fuel + 1, c, gap, broken, done =>
    let length := if c.head = '#' then 0 else plainLength inFlow c.rest
    if length = 0 then (done.reverse, broken, c)
    else
      let done := (c.rest.take length).reverse ++ gap.reverse ++ done
      match plainGap fuel (c.skip length) with
      | (none, hasBreak, place) => (done.reverse, hasBreak, place)
      | (some gap, hasBreak, place) =>
        if gap = [] || place.head = '#' || (!inFlow && (place.column : Int) < indent) then
          (done.reverse, hasBreak, place)
        else plainScalar inFlow indent fuel place gap hasBreak done

/-! ## Quoted scalars -/

/-- Line breaks and blanks inside a quoted scalar. -/
def quotedBreaks : Nat → Cursor → Text → Option (Text × Cursor)
  | 0, _, _ => none
  | fuel + 1, c, breaks =>
    if c.atMarker '-' || c.atMarker '.' then none
    else
      let c := c.skipWhile fun ch => ch = ' ' || ch = '\t'
      if isBreak c.head then
        let (b, c) := c.takeBreak
        quotedBreaks fuel c (breaks ++ b)
      else some (breaks, c)

/-- The character that a one-letter escape stands for. -/
def escapes : List (Char × Char) :=
  [('0', '\x00'), ('a', '\x07'), ('b', '\x08'), ('t', '\t'), ('\t', '\t'), ('n', '\n'),
    ('v', '\x0B'), ('f', '\x0C'), ('r', '\r'), ('e', '\x1B'), (' ', ' '), ('"', '"'),
    ('\\', '\\'), ('/', '/'), ('N', '\x85'), ('_', '\xA0'), ('L', '\u2028'), ('P', '\u2029')]

/-- The number of digits of a numeric escape. -/
def escapeLengths : List (Char × Nat) := [('x', 2), ('u', 4), ('U', 8)]

/-- The numbers from here on are beyond all characters. -/
def characterLimit : Nat := 0x110000

/-- The numbers from here on are not even compared. -/
def hugeLimit : Nat := 0x80000000

/-- How a quoted scalar ends. -/
inductive Quoted where
  /-- With its closing quote: the text, and the place after it. -/
  | complete (text : Text) (place : Cursor)
  /-- In an escape that names no character; its number may be huge. -/
  | impossible (isHuge : Bool)
  /-- Not before the end of the text. -/
  | unfinished
  /-- In something that no quoted scalar holds. -/
  | malformed

/-- The number of characters of an escape with four digits. -/
def halfLength : Nat := 6

/-- The character whose two halves two escapes with four digits write. -/
def pairedEscape (text : Text) : Option Char :=
  match text with
  | '\\' :: 'u' :: a :: b :: c :: d :: '\\' :: 'u' :: e :: f :: g :: h :: _ =>
    match readHex [a, b, c, d], readHex [e, f, g, h] with
    | some high, some low =>
      if 0xD800 ≤ high && high < 0xDC00 && 0xDC00 ≤ low && low < 0xE000 then
        some (Char.ofNat (0x10000 + (high - 0xD800) * 0x400 + (low - 0xDC00)))
      else none
    | _, _ => none
  | _ => none

/-- What an escape at the cursor stands for, and the place after it; an escaped line break stands
for the breaks after it. -/
def takeEscape (fuel : Nat) (c : Cursor) : Except Quoted (Text × Cursor) :=
  let letter := c.peek 1
  match pairedEscape c.rest, escapes.lookup letter, escapeLengths.lookup letter with
  | some image, _, _ => .ok ([image], c.skip (2 * halfLength))
  | none, some image, _ => .ok ([image], c.skip 2)
  | none, none, some length =>
    let digits := (c.rest.drop 2).take length
    match readHex digits with
    | some n =>
      if digits.length ≠ length then .error .malformed
      else if n < characterLimit then .ok ([Char.ofNat n], c.skip (2 + length))
      else .error (.impossible (decide (hugeLimit ≤ n)))
    | none => .error .malformed
  | none, none, none =>
    if isBreak letter then
      match quotedBreaks fuel c.next.takeBreak.2 [] with
      | some (breaks, place) => .ok (breaks, place)
      | none => .error .malformed
    else .error .malformed

/-- The rest of a quoted scalar behind what is done of it, in reverse, up to the place after the
closing quote. -/
def quotedScalar (isDouble : Bool) : Nat → Cursor → (done : Text) → Quoted
  | 0, _, _ => .malformed
  | fuel + 1, c, done =>
    let ch := c.head
    let more := quotedScalar isDouble fuel
    if ch = endMark then .unfinished
    else if ch = ' ' || ch = '\t' then
      let blanks := c.rest.takeWhile fun ch => ch = ' ' || ch = '\t'
      let after := c.skip blanks.length
      if isBreakOrEnd after.head then more after done else more after (blanks.reverse ++ done)
    else if isBreak ch then
      let (first, next) := c.takeBreak
      match quotedBreaks fuel next [] with
      | none => .malformed
      | some (breaks, place) => more place ((foldBreaks first breaks).reverse ++ done)
    else if !isDouble then
      if ch ≠ '\'' then more c.next (ch :: done)
      else if c.peek 1 = '\'' then more (c.skip 2) (ch :: done)
      else .complete done.reverse c.next
    else if ch = '"' then .complete done.reverse c.next
    else if ch ≠ '\\' then more c.next (ch :: done)
    else match takeEscape fuel c with
      | .ok (image, place) => more place (image.reverse ++ done)
      | .error ending => ending

/-! ## Block scalars -/

/-- The header of a block scalar: what happens to its last line break (`some true` keeps all breaks,
`some false` drops them), and its indentation if it is given. -/
def blockHeader (c : Cursor) : Option (Option Bool × Option Nat × Cursor) :=
  let sign? (ch : Char) : Option Bool :=
    if ch = '+' then some true else if ch = '-' then some false else none
  let digit? (ch : Char) : Option Nat := if ch.isDigit then some (ch.toNat - '0'.toNat) else none
  let (chomp, width, c) :=
    match sign? c.head, digit? c.head with
    | some s, _ =>
      match digit? (c.peek 1) with
      | some w => (some s, some w, c.skip 2)
      | none => (some s, none, c.next)
    | none, some w =>
      match sign? (c.peek 1) with
      | some s => (some s, some w, c.skip 2)
      | none => (none, some w, c.next)
    | none, none => (none, none, c)
  if width = some 0 || !(c.head = ' ' || isBreakOrEnd c.head) then none
  else
    let c := c.skipWhile (· = ' ')
    let c := if c.head = '#' then c.skipWhile (fun ch => !isBreak ch) else c
    if isBreakOrEnd c.head then some (chomp, width, (c.takeBreak).2) else none

/-- Blank lines in front of a block scalar whose indentation is not given: the breaks, the largest
column reached, and the place after them. -/
def blockIndentation : Nat → Cursor → Text → Nat → Text × Nat × Cursor
  | 0, c, breaks, most => (breaks, most, c)
  | fuel + 1, c, breaks, most =>
    if c.head = ' ' then
      let c := c.next
      blockIndentation fuel c breaks (max most c.column)
    else if isBreak c.head then
      let (b, c) := c.takeBreak
      blockIndentation fuel c (breaks ++ b) most
    else (breaks, most, c)

/-- Blank lines inside a block scalar, and the indentation of the line after them. -/
def blockBreaks (indent : Nat) : Nat → Cursor → Text → Text × Cursor
  | 0, c, breaks => (breaks, c)
  | fuel + 1, c, breaks =>
    let spaces := min (c.count (· = ' ')) (indent - c.column)
    let c := c.skip spaces
    if isBreak c.head then
      let (b, c) := c.takeBreak
      blockBreaks indent fuel c (breaks ++ b)
    else (breaks, c)

/-- The lines of a block scalar behind what is done of them, in reverse: the text, the last line
break, the breaks after it, and the place. -/
def blockLines (isFolded : Bool) (indent : Nat) :
    Nat → Cursor → (breaks : Text) → (done : Text) → Text × Text × Text × Cursor
  | 0, c, breaks, done => (done.reverse, [], breaks, c)
  | fuel + 1, c, breaks, done =>
    let isBlankStart (c : Cursor) : Bool := c.head = ' ' || c.head = '\t'
    let startsWithText := !isBlankStart c
    let line := c.rest.takeWhile (fun ch => !isBreak ch)
    let done := line.reverse ++ breaks.reverse ++ done
    let (last, next) := (c.skip line.length).takeBreak
    let (breaks, place) := blockBreaks indent fuel next []
    if place.column = indent && place.head ≠ endMark then
      let joint :=
        if isFolded && last = ['\n'] && startsWithText && !isBlankStart place then
          if breaks = [] then [' '] else []
        else last
      blockLines isFolded indent fuel place breaks (joint ++ done)
    else (done.reverse, last, breaks, place)

/-- A block scalar, from the place after its mark. -/
def blockScalar (fuel : Nat) (isFolded : Bool) (indent : Int) (c : Cursor) :
    Option (Text × Cursor) :=
  match blockHeader c with
  | none => none
  | some (chomp, width, c) =>
    let least := (max (indent + 1) 1).toNat
    let (breaks, column, c) :=
      match width with
      | some w =>
        let column := least + w - 1
        let (breaks, c) := blockBreaks column fuel c []
        (breaks, column, c)
      | none =>
        let (breaks, most, c) := blockIndentation fuel c [] 0
        (breaks, max least most, c)
    let (text, last, breaks, c) :=
      if c.column = column && c.head ≠ endMark then blockLines isFolded column fuel c breaks []
      else ([], [], breaks, c)
    some (text ++ (if chomp = some false then [] else last)
      ++ (if chomp = some true then breaks else []), c)

end StorageInventory.Yaml
