import StorageInventory.Host.Tree
import StorageInventory.Json
import StorageInventory.Table

/-!
# The mount table of Linux

A row has at least six fields between single spaces: volume, path, type, options, dump and pass.  A
space inside the first two is written `\040`.  Rows of pseudo file systems and of mounts below the
system's own trees are left out; the others become file stores in the order of the table.

A store's UUID is looked up under the volume as the row writes it.  Its space is asked for under the
path: where the system refuses to tell, it counts as zero, and any other fault ends the reading.
-/

namespace StorageInventory.Linux

open Text

/-! ## File stores -/

/-- A mounted file system: a volume, a pool, or a concrete file system on a device. -/
structure FileStore where
  name : Text
  volume : Text
  mount : Text
  description : Text
  kind : Text
  uuid : Text := []
  usableSpace : Int := 0
  totalSpace : Int := 0
  deriving DecidableEq, Repr

/-- The members of a file store. -/
def FileStore.toJson (s : FileStore) : Json :=
  .object
    [ ("name".toList, .text s.name),
      ("volume".toList, .text s.volume),
      ("mount".toList, .text s.mount),
      ("description".toList, .text s.description),
      ("type".toList, .text s.kind),
      ("uuid".toList, .text s.uuid),
      ("usable_space".toList, .int s.usableSpace),
      ("total_space".toList, .int s.totalSpace) ]

/-! ## Rows -/

/-- The types of virtual file systems that never hold user data.  The type `tmpfs` is not among
them, since it also backs memory disks. -/
def pseudoTypes : List Text :=
  ["rootfs", "sysfs", "proc", "devtmpfs", "devpts", "securityfs", "cgroup", "cgroup2", "pstore",
    "hugetlbfs", "configfs", "selinuxfs", "systemd-1", "binfmt_misc", "mqueue", "debugfs",
    "tracefs", "nfsd", "sunrpc", "rpc_pipefs", "fusectl"].map String.toList

/-- The mount trees of the system itself. -/
def systemTrees : List Text := ["/dev/shm", "/run", "/sys", "/proc"].map String.toList

/-- The path is one of the given ones or lies below one. -/
def isUnder (trees : List Text) (path : Text) : Bool :=
  trees.any fun tree => path = tree || (tree ++ ['/']).isPrefixOf path

/-- A space as rows write it. -/
def escapedSpace : Text := "\\040".toList

/-- The text that a field of a row stands for. -/
def unescape (field : Text) : Text := replaceAll escapedSpace [' '] field

/-- What kind of storage a volume is. -/
def describeVolume (volume kind : Text) : Text :=
  if "/dev".toList.isPrefixOf volume then "Local Disk".toList
  else if volume = "tmpfs".toList then "Ram Disk".toList
  else if "nfs".toList.isPrefixOf kind || kind = "cifs".toList then "Network Disk".toList
  else "Mount Point".toList

/-- A mount that is left out. -/
def isExcluded (kind path : Text) : Bool :=
  pseudoTypes.elem kind || path = "/dev".toList || isUnder systemTrees path

/-- The free and the total space below a path, or why it cannot be told. -/
abbrev SpaceOf := Text → Except Fault (Int × Int)

/-- The space that a system tells of, which is asked only for what it accepts as a path. -/
def systemSpace (ask : Text → Except SystemError (Int × Int)) : SpaceOf := fun path =>
  Host.Tree.withPath path (ask path)

/-- The space of a store; none where the system refuses to tell. -/
def storeSpace (spaceOf : SpaceOf) (path : Text) : Except Fault (Int × Int) :=
  match spaceOf path with
  | .ok space => .ok space
  | .error fault => if fault.isSystem then .ok (0, 0) else .error fault

/-- The store of a row, given its volume as it is written, its path and its type, and its space. -/
def rowStore (uuids : Table Text) (rawVolume path kind : Text) (space : Int × Int) : FileStore :=
  let volume := unescape rawVolume
  { name := if path = ['/'] then ['/'] else volume
    volume := volume
    mount := path
    description := describeVolume volume kind
    kind := kind
    uuid := (uuids.get? rawVolume).getD []
    usableSpace := space.1
    totalSpace := space.2 }

/-- Read a row: its store, if it has one. -/
def readRow (uuids : Table Text) (spaceOf : SpaceOf) (row : Text) :
    Except Fault (Option FileStore) :=
  match fields ' ' row with
  | rawVolume :: rawPath :: kind :: _ :: _ :: _ :: _ =>
    let path := unescape rawPath
    if isExcluded kind path then .ok none
    else (storeSpace spaceOf path).map fun space => some (rowStore uuids rawVolume path kind space)
  | _ => .ok none

/-- The stores of a mount table; the first row whose store cannot be told of ends the reading. -/
def readMounts (uuids : Table Text) (spaceOf : SpaceOf) :
    List Text → Except Fault (List FileStore)
  | [] => .ok []
  | row :: rest =>
    match readRow uuids spaceOf row with
    | .error fault => .error fault
    | .ok store? => (readMounts uuids spaceOf rest).map fun stores => store?.toList ++ stores

end StorageInventory.Linux
