import StorageInventory.Host
import StorageInventory.Host.Tree
import StorageInventory.Number.Numeral
import StorageInventory.Settings.Configuration
import StorageInventory.Text.Case

/-!
# File stores of a host

Linux tells its mounts, UUIDs and descriptors in three places, which the configuration may move.
The UUIDs are the names in a directory, each of which links to its device: the map goes from the
canonical paths of the devices to the names in lower case.  The descriptors are three numbers in one
line: allocated, free, and the most there can be.

Reading the stores starts with the clock: if it cannot be told, nothing is read.
-/

namespace StorageInventory.Linux

open Settings (Value)

/-- Where the system tells of its mounts, UUIDs and descriptors. -/
structure Places where
  mounts : Value
  uuids : Value
  descriptors : Value

/-- The configured places. -/
def Places.ofConfiguration (c : Settings.Configuration) : Places where
  mounts := c.mountsFile
  uuids := c.uuidDirectory
  descriptors := c.descriptorFile

/-! ## UUIDs -/

/-- The map that the names in a directory spell out. -/
def uuidsOf (realPath : Text → Text) (directory : Text) (names : List Text) : Table Text :=
  names.foldl (fun uuids name =>
    Table.put uuids (realPath (Host.Path.join directory name)) (Text.lower name)) []

/-- Read the map from the directory that a setting names; if the system does not list it, the map is
empty. -/
def readUuids (tree : Host.Tree) (opened : Host.Descriptors) (directory : Value) :
    Telling (Table Text) :=
  match Host.listSetting tree.list opened directory with
  | .ok (path, names) => return uuidsOf tree.realPath path names
  | .error fault =>
    if fault.isSystem then do
      Telling.tell (.unlistable directory fault)
      return []
    else throw fault

/-! ## File stores -/

/-- The lines of the file that a setting names, as it is now. -/
def readLines (host : Host) (place : Value) : Answer := do
  let tree ← host.files
  let opened ← host.descriptors
  Telling.note (Host.closedBy opened place)
  Host.readLinesFrom place (Host.readSetting tree.read opened place)

/-- The UUIDs of a host, and the rows of its mount table, which are read after them. -/
def Places.listing (places : Places) (host : Host) : Telling (Table Text × List Text) := do
  let uuids ← readUuids (← host.files) (← host.descriptors) places.uuids
  let rows ← (readLines host places.mounts).toLines
  return (uuids, rows)

/-- The file stores of a host. -/
def Places.fileStores (places : Places) (host : Host) : Telling (List FileStore) := do
  let _ ← host.milliseconds
  let (uuids, rows) ← places.listing host
  readMounts uuids host.spaceOf rows

/-! ## Descriptors -/

/-- The fields of the line. -/
def descriptorFields : Nat := 3

/-- A field of a line. -/
def descriptorField? (line : Text) (index : Nat) : Option Int :=
  (Text.tokens line)[index]?.bind fun token => (Number.readInteger token).toOption

/-- Read one of the fields, given the lines of the file.  A file without lines counts as zero, and
so does a field that is missing or no whole number, which is told of. -/
def readDescriptors (file : Answer) (index : Int) : Telling Int := do
  if index < 0 || (descriptorFields : Int) ≤ index then throw .descriptorField
  match ← file.toLines with
  | [] => return 0
  | line :: _ =>
    match descriptorField? line index.toNat with
    | some n => return n
    | none =>
      Telling.tell (.unexpectedDescriptors line)
      return 0

/-- One of the descriptor counts. -/
def Places.descriptorCount (places : Places) (host : Host) (index : Int) : Telling Int :=
  readDescriptors (readLines host places.descriptors) index

/-- Where the line has the number of descriptors allocated. -/
def openIndex : Int := 0

/-- Where the line has the most descriptors that there can be. -/
def mostIndex : Int := 2

end StorageInventory.Linux
