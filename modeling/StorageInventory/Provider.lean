import StorageInventory.Attach
import StorageInventory.Host.Reading
import StorageInventory.Host.Tree

/-!
# Providers

A live provider runs the tools of the base system, and a captured one reads what they gave once.
-/

namespace StorageInventory.Provider

/-!
## The live provider

The base system's tools tell everything.  The devices are the words of all lines of their listing,
and the minor number of a partition is the inode number of its device file.
-/

/-- The words of all lines. -/
def wordsOfLines (lines : List Text) : List Text := lines.flatMap Text.tokens

/-- Change the lines of an answer. -/
def mapLines (change : List Text → List Text) (answer : Answer) : Answer :=
  (·.map change) <$> answer

/-- Answer a lookup for a name that can be looked up. -/
def checkedLookup (lookup : Text → Answer) (name : Text) : Answer :=
  match checkPartitionName name with
  | .error fault => throw fault
  | .ok () => lookup name

/-! ### The commands -/

/-- Lists the devices. -/
def devicesCommand : List Text := ["sysctl".toList, "-n".toList, "kern.disks".toList]
/-- Shows the mount table. -/
def mountsCommand : List Text := ["mount".toList]
/-- Shows the throughput counters. -/
def countersCommand : List Text := ["iostat".toList, "-Ix".toList]
/-- Lists the geometry of the disks. -/
def diskGeometryCommand : List Text := ["geom".toList, "disk".toList, "list".toList]
/-- Lists the geometry of the partitions. -/
def partitionGeometryCommand : List Text := ["geom".toList, "part".toList, "list".toList]
/-- Shows the inode number of a partition's device file. -/
def minorCommand (name : Text) : List Text :=
  ["stat".toList, "-f".toList, "%i".toList, "/dev/".toList ++ name]

/-- The provider that runs commands, each with the given number of seconds. -/
def live (run : List Text → Host.CommandResult) (timeout : Int) : Provider :=
  let ask := Host.runCommand run timeout
  { devices := mapLines wordsOfLines (ask devicesCommand)
    mounts := ask mountsCommand
    counters := ask countersCommand
    diskGeometry := ask diskGeometryCommand
    partitionGeometry := ask partitionGeometryCommand
    minor := checkedLookup fun name => ask (minorCommand name) }

/-!
## The captured provider

A directory holds the outputs of the tools as they were captured on some host: one file for each
listing, and one in the directory `minor` for each partition.  A file that is missing is an empty
source.
-/

/-! ### The files of a capture -/

/-- The device list. -/
def devicesFile : Text := "kern_disks.txt".toList
/-- The mount table. -/
def mountsFile : Text := "mount.txt".toList
/-- The throughput counters. -/
def countersFile : Text := "iostat.txt".toList
/-- The geometry of the disks. -/
def diskGeometryFile : Text := "geom_disk.txt".toList
/-- The geometry of the partitions. -/
def partitionGeometryFile : Text := "geom_part.txt".toList
/-- The directory of the minor numbers. -/
def minorDirectory : Text := "minor".toList
/-- The file with the minor number of a partition. -/
def minorFile (name : Text) : Text := name ++ ".txt".toList

/-- The provider that reads the files of a capture; the files are looked at each time anew. -/
def captured (files : Telling Host.Tree) (directory : Text) : Provider :=
  let ask (file : Text) : Answer := do
    Host.readFileLines (← files).read (Host.Path.join directory file)
  { devices := mapLines wordsOfLines (ask devicesFile)
    mounts := ask mountsFile
    counters := ask countersFile
    diskGeometry := ask diskGeometryFile
    partitionGeometry := ask partitionGeometryFile
    minor := checkedLookup fun name => ask (Host.Path.join minorDirectory (minorFile name)) }

/-- The provider whose every source fails in the same way. -/
def failing (fault : Fault) : Provider :=
  let answer : Answer := throw fault
  { devices := answer
    mounts := answer
    counters := answer
    diskGeometry := answer
    partitionGeometry := answer
    minor := checkedLookup fun _ => answer }

end StorageInventory.Provider
