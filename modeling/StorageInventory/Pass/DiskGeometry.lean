import StorageInventory.Number.Numeral
import StorageInventory.Session
import StorageInventory.Source
import StorageInventory.Text.Basic

/-!
# Disk geometry

The geometry of disks is told in blocks, as that of partitions is.  Here is what both listings
share, and the pass over the first.
-/

namespace StorageInventory.Pass

open Text

/-!
## Geometry blocks

Both geometry listings are made of blocks.  A line that starts with `Geom name:` opens the block of
the device that is its last word; the lines up to the next such line are the body of the block.  A
block whose device is not in scope is passed over.
-/

/-- The beginning of a line that opens a block. -/
def blockHeader : Text := "Geom name:".toList

/-- The line opens a block. -/
def isBlockHeader (line : Text) : Bool := blockHeader.isPrefixOf line

/-- The beginning of a size attribute. -/
def sizeLabel : Text := "Mediasize:".toList

/-- A whole number, or none if the text is no whole number. -/
def readSize (text : Text) : Option Int := (Number.readInteger text).toOption

/-- Open a block: the device is registered if it is in scope, and told of if it is not. -/
def openBlock (source device : Text) (s : Session) : Session :=
  if s.isValid device then s.register device
  else (s.tell (.outOfScope source device)).tick source EventKind.outOfScope

/-- Pass over a line outside all blocks in scope; a blank line is not worth counting. -/
def passOver (source line : Text) (s : Session) : Session :=
  if line = [] then s else s.tick source EventKind.ignored

/-!
## The pass

The body of a block in scope gives the size, the model and the serial number of its disk, each from
the last line that carries it.  The pass is a scan over the lines whose state is the disk of the
block that is open, if one is.
-/

/-- The beginning of the line with the model. -/
def modelLabel : Text := "descr:".toList

/-- The beginning of the line with the serial number. -/
def serialLabel : Text := "ident:".toList

/-- What stands for a serial number that the device does not tell. -/
def noSerial : Text := "(null)".toList

/-- Read one line of a disk's block. -/
def readDiskAttribute (disk line : Text) (s : Session) : Session :=
  if sizeLabel.isPrefixOf line then
    match tokens line with
    | _ :: size :: _ =>
      match readSize size with
      | some n => s.updateDisk disk fun d => { d with sizeBytes := n }
      | none =>
        (s.tick Source.diskGeometry EventKind.defaulted).updateDisk disk
          fun d => { d with sizeBytes := 0 }
    | _ => s.tick Source.diskGeometry EventKind.skipped
  else if modelLabel.isPrefixOf line then
    s.updateDisk disk fun d => { d with model := trim (line.drop modelLabel.length) }
  else if serialLabel.isPrefixOf line then
    s.updateDisk disk fun d =>
      { d with serial := trim (replaceAll noSerial [] (line.drop serialLabel.length)) }
  else s

/-- The scan under way: the disk of the open block, and the session. -/
structure DiskScan where
  current : Option Text := none
  session : Session

namespace DiskScan

/-- Read one line. -/
def step (scan : DiskScan) (raw : Text) : DiskScan :=
  let line := trim raw
  let s := scan.session.tick Source.diskGeometry EventKind.lines
  if isBlockHeader line then
    let device := lastToken line
    { current := if s.isValid device then some device else none
      session := openBlock Source.diskGeometry device s }
  else match scan.current with
    | none => { scan with session := passOver Source.diskGeometry line s }
    | some disk => { scan with session := readDiskAttribute disk line s }

/-- The end of the listing closes the open block. -/
def finish (scan : DiskScan) : DiskScan := { scan with current := none }

/-- The scan after all lines. -/
def run (scan : DiskScan) (lines : List Text) : DiskScan := lines.foldl step scan

end DiskScan

/-- Read a listing of disk geometry. -/
def readDiskGeometry (lines : List Text) (s : Session) : Session :=
  ((DiskScan.run { session := s } lines).finish).session

end StorageInventory.Pass
