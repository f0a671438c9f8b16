import StorageInventory.Collection
import StorageInventory.Device
import StorageInventory.Host
import StorageInventory.Linux.Collector
import StorageInventory.Provider

/-!
# Inventories

An inventory is everything that a host can tell about its storage.  Disks are read from a directory
of captured outputs if there is one, and otherwise only FreeBSD tells of them; file stores are told
of by Linux, when nothing captured is replayed.
-/

namespace StorageInventory

open Settings (Configuration Value)

/-- The directory of captured outputs: the one asked for, or else the configured one. -/
def captureDirectory (c : Configuration) (asked : Option Text) : Value :=
  match asked with
  | none | some [] => c.captureDirectory
  | some path => .text path

/-- The provider that replays the directory that a setting names. -/
def replay (host : Host) : Value → Provider
  | .text path => Provider.captured host.files path
  | .foreign f => Provider.failing f.inside
  | value => Provider.failing (.pathNotText value.kind)

/-- The provider that runs the commands of the host. -/
def runCommands (host : Host) (c : Configuration) : Except Fault Provider :=
  c.commandTimeout.map (Provider.live host.run)

/-- Collect a snapshot of the host's disks, as of the host's moment. -/
def collectFrom (host : Host) (p : Provider) : Telling Snapshot := do
  let timestamp ← host.milliseconds
  let before ← Telling.past
  let (s, outcome) := collect (p.after before) Pass.geometryRule timestamp
  .of outcome s.journal

/-! ## What a host tells of -/

/-- The platform whose tools tell of disks. -/
def diskPlatform : Text := "FreeBSD".toList

/-- The platform that tells of file stores. -/
def storePlatform : Text := "Linux".toList

/-- The sources of an inventory. -/
structure Inventory.Sources where
  disks : Option Provider
  stores : Option Linux.Places

/-- The sources that a host has. -/
def Inventory.sources (host : Host) (c : Configuration) (asked : Option Text) :
    Except Fault Inventory.Sources :=
  let capture := captureDirectory c asked
  let disks : Except Fault (Option Provider) :=
    if capture.isTruthy then .ok (some (replay host capture))
    else if host.platform = diskPlatform then (runCommands host c).map some
    else .ok none
  disks.map fun disks =>
    { disks
      stores := if host.platform = storePlatform && !capture.isTruthy then
          some (Linux.Places.ofConfiguration c)
        else none }

/-! ## Inventories and their members -/

/-- The file stores of a host with its open descriptors and the most there can be. -/
structure Inventory.Stores where
  stores : List Linux.FileStore
  openDescriptors : Int
  mostDescriptors : Int

/-- An inventory. -/
structure Inventory where
  platform : Text
  snapshot : Option Snapshot
  stores : Option Inventory.Stores

namespace Inventory

/-- The host tells of something. -/
def isSupported (inventory : Inventory) : Bool :=
  inventory.snapshot.isSome || inventory.stores.isSome

/-- Read the stores before the descriptors. -/
def readStores (host : Host) (places : Linux.Places) : Telling Stores := do
  let stores ← places.fileStores host
  let openDescriptors ← places.descriptorCount host Linux.openIndex
  let mostDescriptors ← places.descriptorCount host Linux.mostIndex
  return { stores, openDescriptors, mostDescriptors }

/-- Run a computation for a value, if there is one. -/
def whenGiven {α β : Type} (f : α → Telling β) : Option α → Telling (Option β)
  | none => return none
  | some a => some <$> f a

/-- Take the inventory of a host; what its sources say is looked up in a language. -/
def take (host : Host) (c : Configuration) (asked : Option Text) (t : Translation) :
    Telling Inventory := do
  let sources ← Inventory.sources host c asked
  if sources.disks.isNone && sources.stores.isNone then
    Telling.tell (.unsupportedPlatform host.platform)
  let snapshot ← whenGiven (fun p => collectFrom host (p.inLanguage t)) sources.disks
  let stores ← whenGiven (readStores host) sources.stores
  return { platform := host.platform, snapshot, stores }

/-- The message that stands in the place of an inventory. -/
def unsupportedMessage (t : Translation) (platform : Text) : Except Fault Text :=
  t.filled (Log.Notice.unsupportedPlatform platform).template [.text platform]

/-- The document that stands in the place of an inventory, with its message. -/
def unsupported (platform message : Text) : Json :=
  .object
    [ ("platform".toList, .text platform),
      ("error".toList, .text message),
      ("disks".toList, .list []),
      ("file_stores".toList, .list []) ]

/-- The members that a snapshot adds behind the four that every inventory has. -/
def snapshotMembers : Option Snapshot → List (Text × Json)
  | none => []
  | some snapshot => [("timestamp".toList, .int snapshot.timestamp)]

/-- The members that file stores add. -/
def storeMembers : Option Stores → List (Text × Json)
  | none => []
  | some stores =>
    [ ("open_file_descriptors".toList, .int stores.openDescriptors),
      ("max_file_descriptors".toList, .int stores.mostDescriptors) ]

/-- The members of a supported inventory. -/
def members (inventory : Inventory) : List (Text × Json) :=
  let disks := (inventory.snapshot.map Snapshot.disks).getD []
  let stores := (inventory.stores.map Stores.stores).getD []
  let counts := (inventory.snapshot.map Snapshot.diagnostics).getD []
  [ ("platform".toList, .text inventory.platform),
    ("disks".toList, .list (disks.map Disk.toJson)),
    ("file_stores".toList, .list (stores.map Linux.FileStore.toJson)),
    ("diagnostics".toList, countsToJson counts) ]
  ++ snapshotMembers inventory.snapshot ++ storeMembers inventory.stores

/-- The document of an inventory; a platform that tells of nothing has an error in it, whose message
is looked up in a language. -/
def toJson (t : Translation) (inventory : Inventory) : Except Fault Json :=
  if inventory.isSupported then .ok (.object inventory.members)
  else (unsupportedMessage t inventory.platform).map (unsupported inventory.platform)

end Inventory

end StorageInventory
