import StorageInventory.Yaml.Piece
import StorageInventory.Yaml.Token

/-!
# Cutting a document into tokens

A document is cut into tokens before its structure is read.  Most of the work is layout: a line that
is indented further opens a block, one that is indented less closes blocks, and a text followed by a
colon turns out to be a key only when the colon is reached, at which point the tokens for the key
are put in front of it.

A place where such a key may start is a *candidate*: the position among the tokens where the key
would be put, and where in the document it starts.  A candidate lapses at the end of its line or
after 1024 characters.  One that stands where the layout asks for a key must not lapse.

What stands behind something that is wrong is not cut any more: a last token says that the document
is *broken* there, and with the tokens comes the error that it stands for.  Whatever is wrong with
the tokens before it is told of first, except for those that a key could still have been put in
front of.
-/

namespace StorageInventory.Yaml

/-- A place where a key may start. -/
structure Candidate where
  level : Nat
  position : Nat
  isRequired : Bool
  line : Nat
  column : Nat
  index : Nat

/-- The state of cutting a document into tokens. -/
structure Lexer where
  cursor : Cursor
  /-- The length of the document, which bounds every loop. -/
  limit : Nat
  tape : Tape := {}
  /-- How many brackets are open. -/
  level : Nat := 0
  /-- The column of the innermost block, -1 outside all blocks. -/
  indent : Int := -1
  /-- The columns of the blocks around it. -/
  outer : List Int := []
  /-- A key may start here. -/
  mayStartKey : Bool := true
  candidates : List Candidate := []
  /-- What reading beyond the text runs into, unless the document ends there. -/
  barrier : Option LoadError := none

namespace Lexer

/-! ## Layout -/

/-- Close blocks as far as a column asks for it. -/
def unwindFrom (column : Int) : List Int → Int → Tape → Int × List Int × Tape
  | outer, indent, tape =>
    match outer with
    | [] => (indent, [], tape)
    | below :: rest =>
      if column < indent then unwindFrom column rest below (tape.push .blockEnd)
      else (indent, outer, tape)

/-- Close the blocks that are indented further than a column. -/
def unwind (lexer : Lexer) (column : Int) : Lexer :=
  if lexer.level ≠ 0 then lexer
  else
    let (indent, outer, tape) := unwindFrom column lexer.outer lexer.indent lexer.tape
    { lexer with indent, outer, tape }

/-- Open a block at a column that is indented further; the token that opens it is put in at a
position among the tokens. -/
def openBlock (lexer : Lexer) (column : Nat) (position : Nat) (token : Token) : Lexer :=
  if lexer.indent < (column : Int) then
    { lexer with
      indent := column
      outer := lexer.indent :: lexer.outer
      tape := lexer.tape.insert position token }
  else lexer

/-- Add a token. -/
def push (lexer : Lexer) (token : Token) : Lexer := { lexer with tape := lexer.tape.push token }

/-! ## Candidates for keys -/

/-- The most characters from the beginning of a key to its colon. -/
def keyLimit : Nat := 1024

/-- A candidate has lapsed. -/
def hasLapsed (lexer : Lexer) (k : Candidate) : Bool :=
  k.line ≠ lexer.cursor.line || keyLimit < lexer.cursor.index - k.index

/-- Drop the candidates that have lapsed; one that is required must not. -/
def dropLapsed (lexer : Lexer) : Option Lexer :=
  if lexer.candidates.any fun k => lexer.hasLapsed k && k.isRequired then none
  else some { lexer with candidates := lexer.candidates.filter fun k => !lexer.hasLapsed k }

/-- The tokens that nothing can be put in front of any more. -/
def settled (lexer : Lexer) : List Token :=
  match ((lexer.candidates.filter fun k => !lexer.hasLapsed k).map (·.position)).min? with
  | some position => lexer.tape.before position
  | none => lexer.tape.toList

/-- Drop the candidate inside the innermost brackets; one that is required must not be dropped. -/
def dropCandidate (lexer : Lexer) : Option Lexer :=
  if lexer.candidates.any fun k => k.level = lexer.level && k.isRequired then none
  else some { lexer with candidates := lexer.candidates.filter fun k => k.level ≠ lexer.level }

/-- A key may start here. -/
def addCandidate (lexer : Lexer) : Option Lexer :=
  if lexer.mayStartKey then do
    let c := lexer.cursor
    let lexer ← lexer.dropCandidate
    return { lexer with
      candidates :=
        { level := lexer.level, position := lexer.tape.count
          isRequired := lexer.level = 0 && lexer.indent = c.column
          line := c.line, column := c.column, index := c.index } :: lexer.candidates }
  else some lexer

/-! ## Cutting off one token -/

/-- Go to the next token, past spaces, comments and line breaks. -/
def toNextToken : Nat → Lexer → Lexer
  | 0, lexer => lexer
  | fuel + 1, lexer =>
    let c := lexer.cursor.skipWhile (· = ' ')
    let c := if c.head = '#' then c.skipWhile (fun ch => !isBreak ch) else c
    if isBreak c.head then
      toNextToken fuel
        { lexer with
          cursor := (c.takeBreak).2
          mayStartKey := lexer.mayStartKey || lexer.level = 0 }
    else { lexer with cursor := c }

/-- The end of the document, a directive or a document marker: all blocks end. -/
def closeAll (lexer : Lexer) : Option Lexer := do
  let lexer ← (lexer.unwind (-1)).dropCandidate
  return { lexer with mayStartKey := false }

/-- The marker of the beginning or of the end of a document. -/
def marker (lexer : Lexer) (token : Token) : Option Lexer := do
  let lexer ← lexer.closeAll
  return ({ lexer with cursor := lexer.cursor.skip 3 } : Lexer).push token

/-- An opening bracket. -/
def openBracket (lexer : Lexer) (token : Token) : Option Lexer := do
  let lexer ← lexer.addCandidate
  return { lexer with level := lexer.level + 1, mayStartKey := true, cursor := lexer.cursor.next }
    |>.push token

/-- A closing bracket. -/
def closeBracket (lexer : Lexer) (token : Token) : Option Lexer := do
  let lexer ← lexer.dropCandidate
  if lexer.level = 0 then none
  else
    return { lexer with
      level := lexer.level - 1, mayStartKey := false, cursor := lexer.cursor.next }
      |>.push token

/-- A comma between brackets. -/
def comma (lexer : Lexer) : Option Lexer := do
  let lexer ← ({ lexer with mayStartKey := true } : Lexer).dropCandidate
  return ({ lexer with cursor := lexer.cursor.next } : Lexer).push .flowEntry

/-- The dash of a sequence, or the question mark of a key. -/
def entryMark (lexer : Lexer) (block token : Token) : Option Lexer := do
  let inBlock := lexer.level = 0
  if inBlock && !lexer.mayStartKey then none
  else
    let lexer :=
      if inBlock then lexer.openBlock lexer.cursor.column lexer.tape.count block else lexer
    let lexer ←
      ({ lexer with mayStartKey := inBlock || token = Token.blockEntry } : Lexer).dropCandidate
    return ({ lexer with cursor := lexer.cursor.next } : Lexer).push token

/-- The colon after a key. -/
def colon (lexer : Lexer) : Option Lexer := do
  let inBlock := lexer.level = 0
  match lexer.candidates.find? (·.level = lexer.level) with
  | some k =>
    let lexer : Lexer :=
      { lexer with
        candidates := lexer.candidates.filter fun k => k.level ≠ lexer.level
        tape := lexer.tape.insert k.position .key }
    let lexer := if inBlock then lexer.openBlock k.column k.position .mappingStart else lexer
    return ({ lexer with mayStartKey := false, cursor := lexer.cursor.next } : Lexer).push .value
  | none =>
    if inBlock && !lexer.mayStartKey then none
    else
      let lexer :=
        if inBlock then lexer.openBlock lexer.cursor.column lexer.tape.count .mappingStart
        else lexer
      let lexer ← ({ lexer with mayStartKey := inBlock } : Lexer).dropCandidate
      return ({ lexer with cursor := lexer.cursor.next } : Lexer).push .value

/-- An anchor or an alias. -/
def named (lexer : Lexer) (token : Text → Token) : Option Lexer := do
  let lexer ← lexer.addCandidate
  let name := lexer.cursor.next.rest.takeWhile isNameChar
  let place := lexer.cursor.skip (name.length + 1)
  if name = [] || !(isGap place.head || "?:,]\x7d%@\x60".toList.elem place.head) then none
  else return ({ lexer with mayStartKey := false, cursor := place } : Lexer).push (token name)

/-- A directive, which takes the rest of its line. -/
def directive (lexer : Lexer) : Option Lexer := do
  let lexer ← lexer.closeAll
  let line := lexer.cursor.next.rest.takeWhile fun ch => !isBreak ch
  let d ← Directive.ofLine line
  return ({ lexer with cursor := lexer.cursor.skip (line.length + 1) } : Lexer).push (.directive d)

/-- A tag. -/
def tagged (lexer : Lexer) : Option Lexer := do
  let lexer ← lexer.addCandidate
  let (tag, rest) ← Tag.take lexer.cursor.rest
  let place := lexer.cursor.skip (lexer.cursor.rest.length - rest.length)
  if place.head ≠ ' ' && !isBreakOrEnd place.head then none
  else return ({ lexer with mayStartKey := false, cursor := place } : Lexer).push (.tag tag)

/-- A scalar that may be a key. -/
def flowScalar (lexer : Lexer) (isDouble : Bool) : Except LoadError Lexer :=
  match lexer.addCandidate with
  | none => .error .malformed
  | some lexer =>
    let c := lexer.cursor.next
    match quotedScalar isDouble lexer.limit c [] with
    | .complete text place =>
      .ok (({ lexer with mayStartKey := false, cursor := place } : Lexer).push (.scalar text false))
    | .impossible isHuge => .error (.fault (.escapeOutOfRange isHuge))
    | .unfinished => .error (lexer.barrier.getD .malformed)
    | .malformed => .error .malformed

/-- A plain scalar. -/
def plain (lexer : Lexer) : Option Lexer := do
  let lexer ← lexer.addCandidate
  let c := lexer.cursor
  let (text, broken, place) :=
    plainScalar (lexer.level ≠ 0) (lexer.indent + 1) lexer.limit c [] false []
  return ({ lexer with mayStartKey := broken, cursor := place } : Lexer).push (.scalar text true)

/-- A scalar made of whole lines. -/
def lineScalar (lexer : Lexer) (isFolded : Bool) : Option Lexer := do
  let lexer ← ({ lexer with mayStartKey := true } : Lexer).dropCandidate
  let (text, place) ← blockScalar lexer.limit isFolded lexer.indent lexer.cursor.next
  return ({ lexer with cursor := place } : Lexer).push (.scalar text false)

/-- A plain scalar may start with the characters at the cursor. -/
def startsPlain (lexer : Lexer) : Bool :=
  let ch := lexer.cursor.head
  let isMark := isGap ch || "-?:,[]\x7b\x7d#&*!|>'\"%@\x60".toList.elem ch
  !isMark
    || (!isGap (lexer.cursor.peek 1) && (ch = '-' || (lexer.level = 0 && (ch = '?' || ch = ':'))))

/-- A token, unless there is none. -/
def orMalformed (lexer : Option Lexer) : Except LoadError Lexer :=
  match lexer with
  | some lexer => .ok lexer
  | none => .error .malformed

/-- Cut off one token. -/
def token (lexer : Lexer) : Except LoadError Lexer :=
  let c := lexer.cursor
  let ch := c.head
  let inFlow := lexer.level ≠ 0
  let gapAfter := isGap (c.peek 1)
  if ch = '\'' then lexer.flowScalar false
  else if ch = '"' then lexer.flowScalar true
  else orMalformed <|
    if c.column = 0 && ch = '%' then lexer.directive
    else if c.column = 0 && c.atMarker '-' then lexer.marker .documentStart
    else if c.column = 0 && c.atMarker '.' then lexer.marker .documentEnd
    else if ch = '[' then lexer.openBracket .flowSequenceStart
    else if ch = '\x7b' then lexer.openBracket .flowMappingStart
    else if ch = ']' then lexer.closeBracket .flowSequenceEnd
    else if ch = '\x7d' then lexer.closeBracket .flowMappingEnd
    else if ch = ',' then lexer.comma
    else if ch = '-' && gapAfter then lexer.entryMark .sequenceStart .blockEntry
    else if ch = '?' && (inFlow || gapAfter) then lexer.entryMark .mappingStart .key
    else if ch = ':' && (inFlow || gapAfter) then lexer.colon
    else if ch = '*' then lexer.named .alias
    else if ch = '&' then lexer.named .anchor
    else if ch = '!' then lexer.tagged
    else if ch = '|' && !inFlow then lexer.lineScalar false
    else if ch = '>' && !inFlow then lexer.lineScalar true
    else if lexer.startsPlain then lexer.plain
    else none

/-- The reading has come to where the text cannot be read further; it looks one character ahead. -/
def checkBarrier (lexer : Lexer) : Except LoadError Unit :=
  match lexer.barrier with
  | some error => if lexer.cursor.rest.drop 1 = [] then .error error else .ok ()
  | none => .ok ()

/-- Go to where the next token starts. -/
def advance (lexer : Lexer) : Except LoadError Lexer := do
  let lexer := toNextToken lexer.limit lexer
  lexer.checkBarrier
  let lexer ← orMalformed lexer.dropLapsed
  return lexer.unwind lexer.cursor.column

/-- Cut off the token that starts here. -/
def cut (lexer : Lexer) : Except LoadError Lexer := do
  let lexer ← lexer.token
  lexer.checkBarrier
  return lexer

/-- Cut off all tokens; if the last one is broken, the error is what it stands for. -/
def run : Nat → Lexer → List Token × LoadError
  | 0, lexer => (lexer.tape.toList ++ [.broken], .malformed)
  | fuel + 1, lexer =>
    match lexer.advance with
    | .error error => (lexer.settled ++ [.broken], error)
    | .ok next =>
      if next.cursor.rest = [] then
        match next.closeAll with
        | some last => (last.tape.toList, .malformed)
        | none => (lexer.tape.toList ++ [.broken], .malformed)
      else match next.cut with
        | .error error => (lexer.settled ++ [.broken], error)
        | .ok next => run fuel next

end Lexer

/-- The tokens of a document, and the error that a broken one stands for. -/
def tokensOf (document : Readable) : List Token × LoadError :=
  let text := document.text
  let body := if text.head? = some '\uFEFF' then text.tail else text
  let limit := body.length + 2
  Lexer.run limit { cursor := { rest := body }, limit, barrier := document.barrier }

end StorageInventory.Yaml
