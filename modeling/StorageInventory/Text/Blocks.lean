import StorageInventory.Text.Basic
import StorageInventory.Text.Utf8

/-!
# Reading text in blocks

A file is read as text a block of characters at a time, and its bytes are taken a piece at a time.
A piece may end inside a character or between a carriage return and its line feed; what is
incomplete then waits for the next piece.

So an ill-formed sequence of bytes is told of only when a block needs its piece, and its position
counts from the beginning of the bytes at hand: those that waited, and the piece.
-/

namespace StorageInventory.Text

/-- The number of characters in a block. -/
def blockSize : Nat := 4096

/-- The least number of bytes that are asked for at once. -/
def leastPiece : Nat := 8192

/-- A file that is being read. -/
structure BlockReader where
  /-- The bytes that are not taken yet. -/
  bytes : List UInt8
  /-- The bytes of a character that is not complete yet. -/
  waiting : List UInt8 := []
  /-- A carriage return waits for what follows it. -/
  isAfterReturn : Bool := false
  /-- The characters that are read and in no block yet. -/
  ready : Text := []
  /-- The numbers of bytes and of characters of the last piece. -/
  lastPiece : Nat × Nat := (0, 0)

namespace BlockReader

/-- The number of bytes to take for so many characters: enough if they are as long as those of the
last piece. -/
def pieceSize (reader : BlockReader) (wanted : Nat) : Nat :=
  max leastPiece (reader.lastPiece.1 * wanted / reader.lastPiece.2)

/-- Decode bytes, of which the last ones may be the beginning of a character unless the file has
ended: the text, and those last bytes. -/
def decodeSome (isEnd : Bool) (bytes : List UInt8) : Except Utf8.Malformed (Text × List UInt8) :=
  match Utf8.decodeStrict bytes with
  | .ok text => .ok (text, [])
  | .error piece =>
    match piece.reason with
    | .unexpectedEnd =>
      if isEnd then .error piece
      else (Utf8.decodeStrict (bytes.take piece.position)).map fun text =>
        (text, bytes.drop piece.position)
    | _ => .error piece

/-- Take a piece for so many characters. -/
def takePiece (reader : BlockReader) (wanted : Nat) : Except Utf8.Malformed BlockReader := do
  let size := reader.pieceSize wanted
  let piece := reader.bytes.take size
  let isEnd := piece.isEmpty
  let (text, waiting) ← decodeSome isEnd (reader.waiting ++ piece)
  let goesOn := reader.isAfterReturn && (!text.isEmpty || isEnd)
  let text := if goesOn then '\r' :: text else text
  let isAfterReturn := !isEnd && (text.getLast? = some '\r' || (reader.isAfterReturn && !goesOn))
  let text := unifyLineEnds (if !isEnd && text.getLast? = some '\r' then text.dropLast else text)
  return {
    bytes := reader.bytes.drop size
    waiting := waiting
    isAfterReturn := isAfterReturn
    ready := reader.ready ++ text
    lastPiece := (piece.length, text.length) }

/-- Nothing is left but the characters that are ready. -/
def isAtEnd (reader : BlockReader) : Bool :=
  reader.bytes.isEmpty && reader.waiting.isEmpty && !reader.isAfterReturn

/-- Read a block; the last one may be shorter.  The first argument bounds the number of pieces. -/
def takeBlock : Nat → BlockReader → Except Utf8.Malformed (Text × BlockReader)
  | 0, reader => .ok (reader.ready, { reader with ready := [] })
  | fuel + 1, reader =>
    if blockSize ≤ reader.ready.length || reader.isAtEnd then
      .ok (reader.ready.take blockSize, { reader with ready := reader.ready.drop blockSize })
    else
      match reader.takePiece (blockSize - reader.ready.length) with
      | .error piece => .error piece
      | .ok reader => takeBlock fuel reader

/-- All blocks that can be read, and the ill-formed sequence that ends the reading, if there is one.
The first argument bounds the number of blocks. -/
def takeBlocks : Nat → BlockReader → List Text × Option Utf8.Malformed
  | 0, _ => ([], none)
  | fuel + 1, reader =>
    match reader.takeBlock (reader.bytes.length + 3) with
    | .error piece => ([], some piece)
    | .ok ([], _) => ([], none)
    | .ok (block, reader) =>
      let (blocks, piece) := takeBlocks fuel reader
      (block :: blocks, piece)

end BlockReader

/-- The blocks of a file that can be read, and the ill-formed sequence that ends the reading, if
there is one. -/
def readBlocks (bytes : List UInt8) : List Text × Option Utf8.Malformed :=
  BlockReader.takeBlocks (bytes.length + 1) { bytes }

end StorageInventory.Text
