import Mathlib.Tactic
import StorageInventory.Collection
import StorageInventory.Proofs.Pass.DiskEdits
import StorageInventory.Proofs.Pass.PartitionFaults
import StorageInventory.Proofs.Session.Snapshots

/-!
# The stages of a collection

A collection first gathers: it reads its sources one after the other, up to the lines of the
partition geometry.  What it knows then depends on the lines alone, since a source that fails or
gives nothing counts as empty.  It goes on to present what it gathered: it attaches the partitions
and puts the disks in order.

* `gather_sameStore` — what a collection has gathered, given the lines of its sources,
* `collect_eq` — to collect is to gather and to present.
-/

namespace StorageInventory

open Name Pass

/-! ## Gathering -/

/-- The lines that a finding gives: none if it is a fault, or nothing at all. -/
def findingLines : Finding → List Text
  | .error _ => []
  | .ok lines => lines.getD []

/-- The lines of all sources. -/
structure Listings where
  devices : List Text
  mounts : List Text
  counters : List Text
  diskGeometry : List Text
  partitionGeometry : List Text

/-- The lines of findings. -/
def Findings.listings (f : Findings) : Listings where
  devices := findingLines f.devices
  mounts := findingLines f.mounts
  counters := findingLines f.counters
  diskGeometry := findingLines f.diskGeometry
  partitionGeometry := findingLines f.partitionGeometry

/-- A collection up to the lines of the partition geometry: what it knows, and what it has read. -/
def gather (p : Provider) (timestamp : Int) : Session × Listings :=
  let s : Session := { timestamp }
  let (s, devices) := s.fetch Source.devices p.devices
  let s := { s with valid := devices }
  let (s, mounts) := s.fetch Source.mounts p.mounts
  let s := readMountTable mounts s
  let (s, counters) := s.fetch Source.counters p.counters
  let s := readCounters counters s
  let (s, diskGeometry) := s.fetch Source.diskGeometry p.diskGeometry
  let s := readDiskGeometry diskGeometry s
  let (s, partitionGeometry) := s.fetch Source.partitionGeometry p.partitionGeometry
  (s, { devices, mounts, counters, diskGeometry, partitionGeometry })

/-- The rest of a collection: partitions are attached and disks put in order. -/
def present (p : Provider) (rule : NamingRule) (lines : List Text) (s : Session) :
    Session × Except Fault Snapshot :=
  match readPartitionGeometry rule (some p.minor) lines s with
  | (s, some fault) => (s, .error fault)
  | (s, none) =>
    match s.snapshot with
    | (s, .error fault) => (s, .error fault)
    | (s, .ok snapshot) =>
      (s.tell (.collected snapshot.disks.length (s.diagnostics.total EventKind.skipped)
        (s.diagnostics.total EventKind.defaulted)), .ok snapshot)

/-- To collect is to gather and to present. -/
theorem collect_eq (p : Provider) (rule : NamingRule) (timestamp : Int) :
    collect p rule timestamp =
      present p rule (gather p timestamp).2.partitionGeometry (gather p timestamp).1 := rfl

/-- Reading a source leaves the store. -/
theorem fetch_sameStore (s : Session) (source : Text) (answer : Answer) :
    (s.fetch source answer).1.SameStore s := by
  rw [Session.fetch]
  rcases answer.run s.journal with ⟨fault | lines, entries⟩
  · exact ⟨rfl, rfl, rfl, rfl⟩
  · dsimp only
    split <;> exact ⟨rfl, rfl, rfl, rfl⟩

/-- Whatever a source does, it gives some lines, and the lines of its finding if it is known. -/
theorem fetch_lines (s : Session) (source : Text) (answer : Answer) :
    (s.fetch source answer).2 = findingLines (answer.run s.journal).1 := by
  rw [Session.fetch]
  rcases answer.run s.journal with ⟨fault | lines, entries⟩ <;> rfl

/-- If the findings are known, so are the lines. -/
theorem listings_gather_ofFindings (f : Findings) (timestamp : Int) :
    (gather (Provider.ofFindings f) timestamp).2 = f.listings := by
  simp only [gather, fetch_lines, Findings.listings, Provider.ofFindings, Telling.run_of]

namespace Listings

/-- The device is in scope. -/
def isValid (l : Listings) (device : Text) : Bool := l.devices.elem device

/-- The edits of the listings before the partition geometry. -/
def edits (l : Listings) (timestamp : Int) : List DiskEdit :=
  counterEdits timestamp l.isValid l.counters ++ geometryEdits l.isValid l.diskGeometry

/-- What a collection knows once it has read the listings. -/
def session (l : Listings) (timestamp : Int) : Session where
  valid := l.devices
  disks := applyEdits (l.edits timestamp) []
  mounts := mountsOf l.mounts
  timestamp := timestamp

/-- What comes before the partition geometry leaves partitions and names. -/
theorem isPlain_edits (l : Listings) (timestamp : Int) : ∀ e ∈ l.edits timestamp, IsPlain e := by
  intro e he
  rcases List.mem_append.1 he with he | he
  · exact isPlain_counterEdits e he
  · exact isPlain_geometryEdits e he

/-- No disk has partitions yet. -/
theorem partitions_session (l : Listings) (timestamp : Int) (device : Text) :
    (diskOf (l.session timestamp).disks device).partitions = [] := by
  rw [session, diskOf_applyEdits, partitions_editsOf (l.isPlain_edits timestamp)]
  rfl

/-- There are no partitions before the partition geometry, so all disks are tidy. -/
theorem tidy_session (l : Listings) (timestamp : Int) : Tidy (l.session timestamp).disks := by
  intro device
  rw [l.partitions_session]
  exact ⟨by simp, .nil⟩

/-- Before the partition geometry, every disk is stored under its name. -/
theorem stored_session (l : Listings) (timestamp : Int) : Stored (l.session timestamp).disks :=
  Stored.nil.applyEdits fun e he => (l.isPlain_edits timestamp e he).keepsName

/-- The disks known before the partition geometry. -/
theorem mem_keys_session (l : Listings) (timestamp : Int) (device : Text) :
    device ∈ (l.session timestamp).disks.keys ↔
      l.isValid device = true ∧ ((∃ line ∈ l.counters, IsCounterRow line device) ∨
        ∃ line ∈ l.diskGeometry, Names line device) := by
  rw [session, mem_keys_applyEdits, edits, List.map_append, List.mem_append, mem_counterEdits_iff,
    mem_geometryEdits_iff, ← and_or_left]
  simp [Table.keys]

end Listings

/-! ## What has been gathered -/

section

variable {s t : Session}

/-- From the same store, a mount table leaves its own mount points. -/
theorem mounts_of_sameStore (h : s.SameStore t) (lines : List Text) :
    (readMountTable lines s).SameStore { t with mounts := mountsOf lines } :=
  (readMountTable_sameStore lines s).trans ⟨h.valid, h.disks, rfl, h.timestamp⟩

/-- From the same store, counters leave the edits of their rows. -/
theorem counters_of_sameStore (h : s.SameStore t) (lines : List Text) :
    (readCounters lines s).SameStore
      { t with disks := applyEdits (counterEdits t.timestamp t.isValid lines) t.disks } := by
  refine (readCounters_sameStore lines s).trans ⟨h.valid, ?_, h.mounts, h.timestamp⟩
  rw [h.timestamp, h.isValid, h.disks]

/-- From the same store, a disk geometry leaves the edits of its blocks. -/
theorem geometry_of_sameStore (h : s.SameStore t) (lines : List Text) :
    (readDiskGeometry lines s).SameStore
      { t with disks := applyEdits (geometryEdits t.isValid lines) t.disks } := by
  refine (readDiskGeometry_sameStore lines s).trans ⟨h.valid, ?_, h.mounts, h.timestamp⟩
  rw [h.isValid, h.disks]

end

/-- What a collection has gathered depends on the lines it has read alone. -/
theorem gather_sameStore (p : Provider) (timestamp : Int) :
    (gather p timestamp).1.SameStore ((gather p timestamp).2.session timestamp) := by
  let s₀ : Session := { timestamp }
  let s₁ : Session :=
    { (s₀.fetch Source.devices p.devices).1 with
      valid := (s₀.fetch Source.devices p.devices).2 }
  let fetched₂ := s₁.fetch Source.mounts p.mounts
  let s₂ := readMountTable fetched₂.2 fetched₂.1
  let fetched₃ := s₂.fetch Source.counters p.counters
  let s₃ := readCounters fetched₃.2 fetched₃.1
  let fetched₄ := s₃.fetch Source.diskGeometry p.diskGeometry
  let s₄ := readDiskGeometry fetched₄.2 fetched₄.1
  -- a fetch keeps the store, and each pass does to it what its lines say
  have h₀ := fetch_sameStore s₀ Source.devices p.devices
  have h₁ : s₁.SameStore { valid := s₁.valid, timestamp } :=
    ⟨rfl, h₀.disks, h₀.mounts, h₀.timestamp⟩
  have h₂ := mounts_of_sameStore ((fetch_sameStore s₁ Source.mounts p.mounts).trans h₁) fetched₂.2
  have h₃ := counters_of_sameStore
    ((fetch_sameStore s₂ Source.counters p.counters).trans h₂) fetched₃.2
  have h₄ := geometry_of_sameStore
    ((fetch_sameStore s₃ Source.diskGeometry p.diskGeometry).trans h₃) fetched₄.2
  have h₅ := (fetch_sameStore s₄ Source.partitionGeometry p.partitionGeometry).trans h₄
  refine h₅.trans ⟨rfl, ?_, rfl, rfl⟩
  rw [← applyEdits_append]
  rfl

end StorageInventory
