import Mathlib.Tactic
import StorageInventory.Proofs.Store.Edits

/-!
# Facets of a disk

Three sources describe a disk, each one a facet of its own: the counters say its throughput, the
disk geometry its geometry, and the partition geometry its partitions.  A facet is read and written
without regard to the others, so what one source does to the disks cannot depend on whether, or
when, the others are read.

* `read_editsOf_of_independent` — edits within one facet leave every independent facet as it is,
* `read_editsOf_congr` — what they make of their own facet depends on that facet alone,
* `get?_applyEdits_perm` — edits within independent facets give the same records in any order.

All of this rests on one fact: however many edits of a device there are, within a facet they amount
to one change of it (`exists_editsOf_eq`).
-/

namespace StorageInventory

/-- A part of a disk's record that is read and written on its own.  The name belongs to none. -/
structure Facet (α : Type) where
  read : Disk → α
  write : α → Disk → Disk
  name_write : ∀ a d, (write a d).name = d.name
  write_read : ∀ d, write (read d) d = d
  read_write : ∀ a d, read (write a d) = a
  write_write : ∀ a b d, write a (write b d) = write a d

/-- What the counters say of a disk, and when they said it. -/
structure Throughput where
  readsCount : Int := 0
  writesCount : Int := 0
  readBytes : Int := 0
  writeBytes : Int := 0
  transferTimeMs : Int := 0
  timestamp : Int := 0
  deriving DecidableEq

/-- What the disk geometry says of a disk. -/
structure Geometry where
  model : Text := []
  serial : Text := []
  sizeBytes : Int := 0
  deriving DecidableEq

namespace Facet

/-- The facet of the counters. -/
def throughput : Facet Throughput where
  read d :=
    { readsCount := d.readsCount, writesCount := d.writesCount, readBytes := d.readBytes
      writeBytes := d.writeBytes, transferTimeMs := d.transferTimeMs, timestamp := d.timestamp }
  write t d :=
    { d with
      readsCount := t.readsCount, writesCount := t.writesCount, readBytes := t.readBytes
      writeBytes := t.writeBytes, transferTimeMs := t.transferTimeMs, timestamp := t.timestamp }
  name_write _ _ := rfl
  write_read _ := rfl
  read_write _ _ := rfl
  write_write _ _ _ := rfl

/-- The facet of the disk geometry. -/
def geometry : Facet Geometry where
  read d := { model := d.model, serial := d.serial, sizeBytes := d.sizeBytes }
  write g d := { d with model := g.model, serial := g.serial, sizeBytes := g.sizeBytes }
  name_write _ _ := rfl
  write_read _ := rfl
  read_write _ _ := rfl
  write_write _ _ _ := rfl

/-- The facet of the partition geometry. -/
def partitions : Facet (List Partition) where
  read d := d.partitions
  write ps d := { d with partitions := ps }
  name_write _ _ := rfl
  write_read _ := rfl
  read_write _ _ := rfl
  write_write _ _ _ := rfl

variable {α β : Type} {A : Facet α} {B : Facet β}

/-- A disk is told by its name and its three facets. -/
theorem disk_ext {d e : Disk} (hname : d.name = e.name)
    (hthroughput : throughput.read d = throughput.read e)
    (hgeometry : geometry.read d = geometry.read e) (hpartitions : d.partitions = e.partitions) :
    d = e := by
  obtain ⟨hr, hw, hrb, hwb, hms, hts⟩ := Throughput.mk.inj hthroughput
  obtain ⟨hm, hs, hsize⟩ := Geometry.mk.inj hgeometry
  cases d
  cases e
  simp_all

/-- Two facets that can be written in either order. -/
def Independent (A : Facet α) (B : Facet β) : Prop :=
  ∀ a b d, A.write a (B.write b d) = B.write b (A.write a d)

theorem Independent.symm (h : A.Independent B) : B.Independent A := fun b a d => (h a b d).symm

/-- Writing one facet leaves what an independent one reads. -/
theorem Independent.read_write (h : A.Independent B) (b : β) (d : Disk) :
    A.read (B.write b d) = A.read d :=
  calc
    A.read (B.write b d) = A.read (B.write b (A.write (A.read d) d)) := by rw [A.write_read]
    _ = A.read (A.write (A.read d) (B.write b d)) := by rw [h]
    _ = A.read d := A.read_write _ _

/-- Throughput and geometry are independent. -/
theorem throughput_geometry : throughput.Independent geometry := fun _ _ _ => rfl

/-- Throughput and partitions are independent. -/
theorem throughput_partitions : throughput.Independent partitions := fun _ _ _ => rfl

/-- Geometry and partitions are independent. -/
theorem geometry_partitions : geometry.Independent partitions := fun _ _ _ => rfl

end Facet

/-! ## Edits within a facet -/

open Facet

variable {α β : Type} {A : Facet α} {B : Facet β}

/-- The edit changes the facet of a record that stands under its name, and nothing else. -/
def DiskEdit.Within (A : Facet α) (e : DiskEdit) : Prop :=
  ∃ f : α → α, ∀ d : Disk, d.name = e.device → e.change d = A.write (f (A.read d)) d

/-- An edit within a facet leaves the record under its name. -/
theorem DiskEdit.Within.keepsName {e : DiskEdit} (h : e.Within A) : e.KeepsName := by
  obtain ⟨f, hf⟩ := h
  intro d hd
  rw [hf d hd, A.name_write, hd]

/-- Registration writes nothing, so it is within any facet. -/
theorem within_registration (A : Facet α) (device : Text) : (registration device).Within A :=
  ⟨id, fun d _ => (A.write_read d).symm⟩

/-- Edits that leave names leave the name of a disk. -/
theorem name_editsOf {edits : List DiskEdit} (h : ∀ e ∈ edits, e.KeepsName) {device : Text}
    {d : Disk} (hd : d.name = device) : (editsOf edits device d).name = device := by
  induction edits generalizing d with
  | nil => exact hd
  | cons e edits ih =>
    have hrest := fun e' he' => h e' (List.mem_cons_of_mem e he')
    by_cases heq : e.device = device
    · subst heq
      rw [editsOf_cons_self]
      exact ih hrest (h e List.mem_cons_self d hd)
    · rw [editsOf_cons_of_ne heq]
      exact ih hrest hd

/-- All edits of a device within a facet amount to one change of the facet. -/
theorem exists_editsOf_eq {edits : List DiskEdit} (h : ∀ e ∈ edits, e.Within A) (device : Text) :
    ∃ f : α → α, ∀ d : Disk, d.name = device →
      editsOf edits device d = A.write (f (A.read d)) d := by
  induction edits with
  | nil => exact ⟨id, fun d _ => (A.write_read d).symm⟩
  | cons e edits ih =>
    obtain ⟨g, hg⟩ := ih fun e' he' => h e' (List.mem_cons_of_mem e he')
    by_cases heq : e.device = device
    · -- the first edit changes the facet, and the others what it left
      subst heq
      obtain ⟨f, hf⟩ := h e List.mem_cons_self
      refine ⟨g ∘ f, fun d hd => ?_⟩
      have hname : (A.write (f (A.read d)) d).name = e.device := (A.name_write _ d).trans hd
      rw [editsOf_cons_self, hf d hd, hg _ hname, A.read_write, A.write_write, Function.comp_apply]
    · refine ⟨g, fun d hd => ?_⟩
      rw [editsOf_cons_of_ne heq, hg d hd]

/-- Edits within a facet leave every independent one as it is. -/
theorem read_editsOf_of_independent (hind : B.Independent A) {edits : List DiskEdit}
    (h : ∀ e ∈ edits, e.Within A) {device : Text} {d : Disk} (hd : d.name = device) :
    B.read (editsOf edits device d) = B.read d := by
  obtain ⟨f, hf⟩ := exists_editsOf_eq h device
  rw [hf d hd, hind.read_write]

/-- What edits make of their facet depends on that facet alone. -/
theorem read_editsOf_congr {edits : List DiskEdit} (h : ∀ e ∈ edits, e.Within A) {device : Text}
    {d e : Disk} (hd : d.name = device) (he : e.name = device) (hread : A.read d = A.read e) :
    A.read (editsOf edits device d) = A.read (editsOf edits device e) := by
  obtain ⟨f, hf⟩ := exists_editsOf_eq h device
  rw [hf d hd, hf e he, A.read_write, A.read_write, hread]

/-- The edit gives the facet of a record that stands under its name a value, whatever it was. -/
def DiskEdit.Overwrites (A : Facet α) (e : DiskEdit) : Prop :=
  ∃ a : α, ∀ d : Disk, d.name = e.device → e.change d = A.write a d

/-- An edit that overwrites a facet is within it. -/
theorem DiskEdit.Overwrites.within {e : DiskEdit} (h : e.Overwrites A) : e.Within A := by
  obtain ⟨a, ha⟩ := h
  exact ⟨fun _ => a, ha⟩

/-- Edits of a device that overwrite a facet amount to one that does, if there are any. -/
theorem editsOf_of_overwrites {edits : List DiskEdit} (h : ∀ e ∈ edits, e.Overwrites A)
    (device : Text) :
    (∃ a : α, ∀ d : Disk, d.name = device → editsOf edits device d = A.write a d) ∨
      ∀ d : Disk, editsOf edits device d = d := by
  induction edits with
  | nil => exact .inr fun _ => rfl
  | cons e edits ih =>
    have ih := ih fun e' he' => h e' (List.mem_cons_of_mem e he')
    by_cases heq : e.device = device
    · subst heq
      obtain ⟨a, ha⟩ := h e List.mem_cons_self
      simp only [editsOf_cons_self]
      rcases ih with ⟨b, hb⟩ | hself
      · refine .inl ⟨b, fun d hd => ?_⟩
        have hname : (A.write a d).name = e.device := (A.name_write a d).trans hd
        rw [ha d hd, hb _ hname, A.write_write]
      · exact .inl ⟨a, fun d hd => by rw [hself, ha d hd]⟩
    · simp only [editsOf_cons_of_ne heq]
      exact ih

/-- To overwrite a facet a second time changes nothing. -/
theorem editsOf_editsOf_of_overwrites {edits : List DiskEdit} (h : ∀ e ∈ edits, e.Overwrites A)
    {device : Text} {d : Disk} (hd : d.name = device) :
    editsOf edits device (editsOf edits device d) = editsOf edits device d := by
  rcases editsOf_of_overwrites h device with ⟨a, ha⟩ | hself
  · have hname : (A.write a d).name = device := (A.name_write a d).trans hd
    rw [ha d hd, ha _ hname, A.write_write]
  · rw [hself, hself]

/-! ## Edits in any order -/

/-- The edits of every device have the same effect in either order. -/
def CommuteEdits (a b : List DiskEdit) : Prop :=
  ∀ d : Disk, editsOf a d.name (editsOf b d.name d) = editsOf b d.name (editsOf a d.name d)

theorem CommuteEdits.symm {a b : List DiskEdit} (h : CommuteEdits a b) : CommuteEdits b a :=
  fun d => (h d).symm

/-- Edits within independent facets commute. -/
theorem commuteEdits_of_independent (hind : A.Independent B) {a b : List DiskEdit}
    (ha : ∀ e ∈ a, e.Within A) (hb : ∀ e ∈ b, e.Within B) : CommuteEdits a b := by
  intro d
  obtain ⟨f, hf⟩ := exists_editsOf_eq ha d.name
  obtain ⟨g, hg⟩ := exists_editsOf_eq hb d.name
  rw [hg d rfl, hf d rfl, hf _ (B.name_write _ d), hg _ (A.name_write _ d), hind.read_write,
    hind.symm.read_write, hind]

/-- Lists of edits that commute with each other can be applied in any order. -/
theorem editsOf_flatten_perm {parts parts' : List (List DiskEdit)} (h : parts.Perm parts')
    (hname : ∀ edits ∈ parts, ∀ e ∈ edits, e.KeepsName)
    (hcomm : ∀ a ∈ parts, ∀ b ∈ parts, CommuteEdits a b) {device : Text} {d : Disk}
    (hd : d.name = device) :
    editsOf parts.flatten device d = editsOf parts'.flatten device d := by
  induction h generalizing d with
  | nil => rfl
  | cons edits _ ih =>
    rw [List.flatten_cons, List.flatten_cons, editsOf_append, editsOf_append]
    refine ih (fun a ha => hname a (List.mem_cons_of_mem edits ha)) (fun a ha b hb => ?_) ?_
    · exact hcomm a (List.mem_cons_of_mem edits ha) b (List.mem_cons_of_mem edits hb)
    · exact name_editsOf (hname edits List.mem_cons_self) hd
  | swap a b rest =>
    have hswap := hcomm a (by simp) b (by simp) d
    rw [hd] at hswap
    simp only [List.flatten_cons, editsOf_append, hswap]
  | trans h _ ih ih' =>
    rw [ih hname hcomm hd]
    refine ih' (fun a ha => hname a (h.mem_iff.2 ha)) (fun a ha b hb => ?_) hd
    exact hcomm a (h.mem_iff.2 ha) b (h.mem_iff.2 hb)

/-- Lists of edits that commute with each other give the same records in any order. -/
theorem get?_applyEdits_perm {parts parts' : List (List DiskEdit)} (h : parts.Perm parts')
    (hname : ∀ edits ∈ parts, ∀ e ∈ edits, e.KeepsName)
    (hcomm : ∀ a ∈ parts, ∀ b ∈ parts, CommuteEdits a b) {disks : Table Disk} (hs : Stored disks)
    (device : Text) :
    (applyEdits parts.flatten disks).get? device =
      (applyEdits parts'.flatten disks).get? device := by
  have hmem : device ∈ parts.flatten.map DiskEdit.device ↔
      device ∈ parts'.flatten.map DiskEdit.device := (h.flatten.map DiskEdit.device).mem_iff
  rw [get?_applyEdits, get?_applyEdits,
    editsOf_flatten_perm h hname hcomm (hs.name_diskOf device)]
  simp only [hmem]

end StorageInventory
