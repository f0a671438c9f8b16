import StorageInventory.Fault
import StorageInventory.Yaml.Tag

/-!
# Tokens

As far as a document can be read, it is cut into tokens.
-/

namespace StorageInventory.Yaml

/-!
## What can be read of a document

A document is read in blocks, and only as far as it is looked at.  The first two blocks are read
before anything is looked at; from then on a block that cannot be read, or that holds a character
that no document holds, is an error only when the reading comes to it, so that whatever is wrong
before it is told of first.
-/

/-- Why a text gives no value. -/
inductive LoadError where
  /-- The text is no well-formed document. -/
  | malformed
  /-- The text cannot be read, or holds something that has the form of a value and is none. -/
  | fault (fault : Fault)

/-- A document as far as it can be read. -/
structure Readable where
  text : Text
  /-- What looking further than the text runs into; `none` if the document ends there. -/
  barrier : Option LoadError := none

/-- A character that a document may hold. -/
def isDocumentChar (c : Char) : Bool :=
  let n := c.toNat
  c = '\t' || c = '\n' || c = '\r' || (0x20 ≤ n && n ≤ 0x7E) || n = 0x85
    || (0xA0 ≤ n && n ≤ 0xD7FF) || (0xE000 ≤ n && n ≤ 0xFFFD) || 0x10000 ≤ n

/-- The number of blocks that are read at first. -/
def firstBlocks : Nat := 2

/-- What can be read of blocks after which the reading may fail. -/
def Readable.ofBlocks (blocks : List Text) (failure : Option Fault) : Readable :=
  let good := blocks.takeWhile (·.all isDocumentChar)
  let visible := if good.length < firstBlocks then [] else good.flatten
  match failure with
  | some fault =>
    if good.length < blocks.length && firstBlocks ≤ blocks.length then
      { text := visible, barrier := some .malformed }
    else { text := visible, barrier := some (.fault fault) }
  | none =>
    if good.length < blocks.length then { text := visible, barrier := some .malformed }
    else { text := blocks.flatten }

/-!
## Tokens and their tape

The tokens that a document is cut into, and the tape that they are put on.
-/

/-- A token. -/
inductive Token where
  | directive (d : Directive)
  | documentStart
  | documentEnd
  | sequenceStart
  | mappingStart
  | blockEnd
  | flowSequenceStart
  | flowSequenceEnd
  | flowMappingStart
  | flowMappingEnd
  | flowEntry
  | blockEntry
  | key
  | value
  | alias (name : Text)
  | anchor (name : Text)
  | tag (t : Tag)
  | scalar (text : Text) (isPlain : Bool)
  /-- Nothing behind this place can be cut into tokens. -/
  | broken
  deriving DecidableEq

/-- Tokens in a row, the latest first, so that one is quickly put in near the end. -/
structure Tape where
  latest : List Token := []
  count : Nat := 0

namespace Tape

/-- Put a token at the end. -/
def push (tape : Tape) (token : Token) : Tape :=
  { latest := token :: tape.latest, count := tape.count + 1 }

/-- Put a token in at a position. -/
def insert (tape : Tape) (position : Nat) (token : Token) : Tape :=
  let behind := tape.count - position
  { latest := tape.latest.take behind ++ token :: tape.latest.drop behind, count := tape.count + 1 }

/-- The tokens in front of a position. -/
def before (tape : Tape) (position : Nat) : List Token :=
  (tape.latest.drop (tape.count - position)).reverse

/-- All tokens. -/
def toList (tape : Tape) : List Token := tape.before tape.count

end Tape

end StorageInventory.Yaml
