import StorageInventory.Number.Numeral
import StorageInventory.Session
import StorageInventory.Source
import StorageInventory.Text.Basic

/-!
# Passes over rows

The mount table and the throughput counters tell all that they know of one thing in one row, so
their passes read row by row.
-/

namespace StorageInventory.Pass

open Text Number

/-!
## The mount table

A row that matters reads `/dev/ada0p2 on /usr (ufs, local)`: the device prefix, the name of a
partition, the word `on` between single spaces, the mount point, and then nothing or a space and the
rest.  Name and mount point end at the first blank, so a row has at most one reading.
-/

/-- The text after a given beginning. -/
def afterPrefix? : Text → Text → Option Text
  | [], text => some text
  | _ :: _, [] => none
  | c :: lead, d :: rest => if c = d then afterPrefix? lead rest else none

/-- The longest beginning without blanks, and what follows it. -/
def spanWord (text : Text) : Text × Text := text.span (fun c => !isBlank c)

/-- The beginning of every device path. -/
def devicePrefix : Text := "/dev/".toList

/-- What stands between the partition and its mount point. -/
def mountedOn : Text := " on ".toList

/-- What may follow the mount point: nothing, or a space and text without a line feed. -/
def isMountTail : Text → Bool
  | [] => true
  | c :: rest => c = ' ' && rest.all (· != '\n')

/-- The partition and the mount point of a row. -/
def readMountRow (row : Text) : Option (Text × Text) :=
  match afterPrefix? devicePrefix (trim row) with
  | none => none
  | some body =>
    let (partition, rest) := spanWord body
    match partition, afterPrefix? mountedOn rest with
    | [], _ => none
    | _, none => none
    | _, some place =>
      let (mountPoint, tail) := spanWord place
      if mountPoint ≠ [] && isMountTail tail then some (partition, mountPoint) else none

/-- Read one row. -/
def readMountLine (s : Session) (line : Text) : Session :=
  let s := s.tick Source.mounts EventKind.lines
  match readMountRow line with
  | none => s.tick Source.mounts EventKind.skipped
  | some (partition, mountPoint) => { s with mounts := s.mounts.put partition mountPoint }

/-- Replace the mount points by those of a mount table. -/
def readMountTable (lines : List Text) (s : Session) : Session :=
  lines.foldl readMountLine { s with mounts := [] }

/-!
## Throughput counters

A row has the device in column 0, the counts of reads and writes in columns 1 and 2, kilobytes read
and written in columns 3 and 4, and busy seconds in column 7.  A row needs at least seven columns
and a device in scope.  Kilobytes become bytes and seconds milliseconds, with fractions dropped.  A
column that is missing, is no number, or is not finite before or after that conversion counts as
zero.

A row replaces the counters of its device and keeps what other sources said of it.
-/

/-- The value of a column in the smaller unit; `none` if it has to be defaulted. -/
def readColumn (column : Option Text) (factor : Nat) : Option Int :=
  match column.bind readBinary64 with
  | none => none
  | some x =>
    if x.isFinite && (x.times factor).isFinite then some (x.times factor).truncate else none

/-- The columns that are read, with the factor to the smaller unit. -/
def counterColumns : List (Nat × Nat) := [(1, 1), (2, 1), (3, 1024), (4, 1024), (7, 1000)]

/-- The values of the columns that are read. -/
def readColumns (columns : List Text) : List (Option Int) :=
  counterColumns.map fun (index, factor) => readColumn columns[index]? factor

/-- The columns of a row that is accepted, given the devices in scope. -/
def acceptCounterRow (valid : Text → Bool) (line : Text) : Option (Text × List Text) :=
  match tokens line with
  | [] => none
  | device :: rest => if 7 ≤ rest.length + 1 && valid device then some (device, rest) else none

/-- Put the counters of a device in, in the order of the columns. -/
def putCounters (s : Session) (device : Text) (values : List Int) : Session :=
  let value (i : Nat) : Int := values.getD i 0
  s.updateDisk device fun disk =>
    { disk with
      name := device
      readsCount := value 0
      writesCount := value 1
      readBytes := value 2
      writeBytes := value 3
      transferTimeMs := value 4
      timestamp := s.timestamp }

/-- Read one row. -/
def readCounterLine (s : Session) (line : Text) : Session :=
  let s := s.tick Source.counters EventKind.lines
  match acceptCounterRow s.isValid line with
  | none => s.tick Source.counters EventKind.skipped
  | some (device, rest) =>
    let values := readColumns (device :: rest)
    let defaulted := values.countP Option.isNone
    let s :=
      if defaulted = 0 then s else s.record Source.counters EventKind.defaulted defaulted
    putCounters s device (values.map (·.getD 0))

/-- Read the rows of a counter listing. -/
def readCounters (lines : List Text) (s : Session) : Session := lines.foldl readCounterLine s

end StorageInventory.Pass
