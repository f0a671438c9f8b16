import Mathlib.Tactic
import StorageInventory.Proofs.Collection.Lookups

/-!
# What a collection depends on

A collection depends on the lines of its sources and on the lines of the lookups, and on nothing
else about them.  Why a source gave no lines, which commands were run for it and what was told on
the way show in the journal only.

* `Provider.SameLines` — two providers give the same lines,
* `readBlocks_sameLines` — lookups with the same lines attach the same partitions, or fail alike,
* `Provider.SameLines.collect_eq` — providers with the same lines lead to the same result, be it a
  snapshot or a fault.
-/

namespace StorageInventory

open Diagnostics Name Number Pass Text

/-! ## The same lines -/

/-- The answers give the same lines, whatever was told before either of them. -/
def Answer.SameLines (a b : Answer) : Prop :=
  ∀ before before', findingLines (a.run before).1 = findingLines (b.run before').1

/-- The providers give the same lines at every source. -/
structure Provider.SameLines (p q : Provider) : Prop where
  devices : p.devices.SameLines q.devices
  mounts : p.mounts.SameLines q.mounts
  counters : p.counters.SameLines q.counters
  diskGeometry : p.diskGeometry.SameLines q.diskGeometry
  partitionGeometry : p.partitionGeometry.SameLines q.partitionGeometry
  minor : ∀ name, (p.minor name).SameLines (q.minor name)

/-- The number that an answer says is told by its lines. -/
theorem answeredNumber_eq (finding : Finding) :
    answeredNumber finding =
      ((findingLines finding).findSome? fun line => (tokens line).head?).bind fun word =>
        (readInteger word).toOption := by
  rcases finding with fault | _ | lines <;> rfl

/-- The number that an answer gives depends on its lines only. -/
theorem answeredNumber_congr {f g : Finding} (h : findingLines f = findingLines g) :
    answeredNumber f = answeredNumber g := by
  rw [answeredNumber_eq, answeredNumber_eq, h]

/-- The answers to a lookup say the same number. -/
theorem Provider.SameLines.answered {p q : Provider} (h : p.SameLines q) (name : Text)
    (before before' : Journal) :
    answeredNumber ((p.minor name).run before).1 = answeredNumber ((q.minor name).run before').1 :=
  answeredNumber_congr (h.minor name before before')

/-! ## Lookups with the same lines -/

namespace Session

variable {lookup lookup' : Text → Answer} {s t : Session}

/-- Lookups with the same lines give a name the same number. -/
theorem askMinor_sameLines (h : ∀ name, (lookup name).SameLines (lookup' name)) (name : Text) :
    (s.askMinor lookup name).2 = (t.askMinor lookup' name).2 := by
  have hnumber := answeredNumber_congr (h name s.journal t.journal)
  rw [askMinor_number, askMinor_number, minorOf, minorOf, getLeft?_readMinor, getLeft?_readMinor,
    hnumber]

/-- Lookups with the same lines resolve a batch alike. -/
theorem resolveAll_sameLines (h : ∀ name, (lookup name).SameLines (lookup' name))
    (batch : List Partition) :
    (resolveAll lookup batch s).2 = (resolveAll lookup' batch t).2 := by
  induction batch generalizing s t with
  | nil => rfl
  | cons p rest ih =>
    have hnumber := askMinor_sameLines (s := s) (t := t) h p.name
    have hrest := ih (s := (s.askMinor lookup p.name).1) (t := (t.askMinor lookup' p.name).1)
    rw [resolveAll_cons, resolveAll_cons]
    split_ifs
    · rw [hnumber, hrest]
    · rfl

end Session

/-! ## Readings that end alike -/

namespace Pass

open Session

/-- Two readings end with the same store, and both of them well or with the same fault. -/
def EndAlike (x y : Session × Option Fault) : Prop := x.1.SameStore y.1 ∧ x.2 = y.2

/-- Readings that differ in counts only end alike. -/
theorem Agrees.endAlike {x y : Session × Option Fault} (h : Agrees x y) : EndAlike x y :=
  ⟨h.1.sameStore, h.2⟩

theorem EndAlike.symm {x y : Session × Option Fault} (h : EndAlike x y) : EndAlike y x :=
  ⟨h.1.symm, h.2.symm⟩

theorem EndAlike.trans {x y z : Session × Option Fault} (hxy : EndAlike x y) (hyz : EndAlike y z) :
    EndAlike x z :=
  ⟨hxy.1.trans hyz.1, hxy.2.trans hyz.2⟩

/-- Readings that end alike still do so when both go on. -/
theorem EndAlike.goOn {x y : Session × Option Fault} (h : EndAlike x y)
    {f g : Session → Session × Option Fault} (hnext : ∀ s t, s.SameStore t → EndAlike (f s) (g t)) :
    EndAlike (goOn x f) (goOn y g) := by
  obtain ⟨s, fault⟩ := x
  obtain ⟨t, other⟩ := y
  obtain ⟨hstore, rfl⟩ : s.SameStore t ∧ fault = other := h
  cases fault with
  | some fault => exact ⟨hstore, rfl⟩
  | none => exact hnext s t hstore

variable {lookup lookup' : Text → Answer} {s t : Session}

/-- Merging ends alike from the same store. -/
theorem mergeInto_endAlike (h : s.SameStore t) (disk : Text) (batch : List Partition) :
    EndAlike (s.mergeInto disk batch) (t.mergeInto disk batch) := by
  unfold mergeInto
  rw [diskOrNew_eq, diskOrNew_eq, h.disks]
  split
  · exact ⟨h, rfl⟩
  · refine ⟨⟨h.valid, ?_, h.mounts, h.timestamp⟩, rfl⟩
    rw [disks_updateDisk, disks_updateDisk, h.disks]

/-- Attaching ends alike from the same store, if the lookups have the same lines. -/
theorem attach_endAlike (h : ∀ name, (lookup name).SameLines (lookup' name)) (hst : s.SameStore t)
    (disk : Text) (batch : List Partition) :
    EndAlike (s.attach (some lookup) disk batch) (t.attach (some lookup') disk batch) := by
  have hs := resolveAll_sameStore lookup batch s
  have ht := resolveAll_sameStore lookup' batch t
  have hresolved := resolveAll_sameLines (s := s) (t := t) h batch
  have hstore := hs.trans (hst.trans ht.symm)
  rw [attach, attach, ← Prod.mk.eta (p := resolveAll lookup batch s),
    ← Prod.mk.eta (p := resolveAll lookup' batch t), hresolved]
  cases (resolveAll lookup' batch t).2 with
  | error fault => exact ⟨hstore, rfl⟩
  | ok resolved => exact mergeInto_endAlike hstore disk resolved

/-- A block ends alike from the same store, if the lookups have the same lines. -/
theorem readBlock_endAlike (h : ∀ name, (lookup name).SameLines (lookup' name))
    (hst : s.SameStore t) (rule : NamingRule) (b : Block) :
    EndAlike (readBlock rule (some lookup) b s) (readBlock rule (some lookup') b t) := by
  cases hvalid : t.isValid b.device with
  | true =>
    have hregister : (s.register b.device).SameStore (t.register b.device) := by
      rw [register_eq, register_eq, hst.disks]
      exact ⟨hst.valid, rfl, hst.mounts, hst.timestamp⟩
    rw [readBlock_of_valid (hst.isValid ▸ hvalid), readBlock_of_valid hvalid, hst.mounts]
    exact attach_endAlike h hregister b.device _
  | false =>
    obtain ⟨hs, hs'⟩ := readBlock_of_not_valid rule (some lookup) (hst.isValid ▸ hvalid)
    obtain ⟨ht, ht'⟩ := readBlock_of_not_valid rule (some lookup') hvalid
    exact ⟨hs.trans (hst.trans ht.symm), hs'.trans ht'.symm⟩

/-- Lookups with the same lines attach the same partitions to the same disks, or fail in the same
way. -/
theorem readBlocks_sameLines (h : ∀ name, (lookup name).SameLines (lookup' name))
    (hst : s.SameStore t) (rule : NamingRule) (blocks : List Block) :
    EndAlike (readBlocks rule (some lookup) blocks s)
      (readBlocks rule (some lookup') blocks t) := by
  induction blocks generalizing s t with
  | nil => exact ⟨hst, rfl⟩
  | cons b rest ih => exact (readBlock_endAlike h hst rule b).goOn fun _ _ hnext => ih hnext

/-- A pass over partitions ends alike from the same store, if the lookups have the same lines. -/
theorem readPartitionGeometry_sameLines (h : ∀ name, (lookup name).SameLines (lookup' name))
    (hst : s.SameStore t) (rule : NamingRule) (lines : List Text) :
    EndAlike (readPartitionGeometry rule (some lookup) lines s)
      (readPartitionGeometry rule (some lookup') lines t) := by
  have hs := (readPartitionGeometry_agrees rule (some lookup) lines s).endAlike
  have ht := (readPartitionGeometry_agrees rule (some lookup') lines t).endAlike
  exact hs.trans ((readBlocks_sameLines h hst rule (blocksOf lines)).trans ht.symm)

end Pass

/-! ## Providers with the same lines -/

namespace Provider.SameLines

variable {p q : Provider}

/-- The same lines are gathered. -/
theorem listings (h : p.SameLines q) (timestamp : Int) :
    (gather p timestamp).2 = (gather q timestamp).2 := by
  simp only [gather, fetch_lines, Listings.mk.injEq]
  exact ⟨h.devices _ _, h.mounts _ _, h.counters _ _, h.diskGeometry _ _, h.partitionGeometry _ _⟩

/-- The same is known when the partitions are to be attached. -/
theorem gather_sameStore (h : p.SameLines q) (timestamp : Int) :
    (gather p timestamp).1.SameStore (gather q timestamp).1 := by
  have hp := StorageInventory.gather_sameStore p timestamp
  have hq := StorageInventory.gather_sameStore q timestamp
  rw [h.listings] at hp
  exact hp.trans hq.symm

/-- The same lookups fail. -/
theorem failsBy (h : p.SameLines q) :
    ∃ failed, Session.FailsBy (some p.minor) failed ∧ Session.FailsBy (some q.minor) failed := by
  have hfailed : ∀ (r : Provider) name before,
      (readMinor name ((r.minor name).run before).1).isRight =
        (answeredNumber ((r.minor name).run before).1).isNone := by
    intro r name before
    rw [← getLeft?_readMinor name]
    cases readMinor name ((r.minor name).run before).1 <;> rfl
  refine ⟨fun name => (answeredNumber ((q.minor name).run []).1).isNone, ?_, ?_⟩
  · intro name before
    rw [hfailed, h.answered name before []]
  · intro name before
    -- what `q` says at one time is what `p` says, and that is what `q` says at another
    rw [hfailed, ← h.answered name [] before, h.answered name [] []]

/-- The same is counted, where the partitions are attached without a fault. -/
theorem diagnostics (h : p.SameLines q) {rule : NamingRule} {timestamp : Int} {lines : List Text}
    (hp : (readPartitionGeometry rule (some p.minor) lines (gather p timestamp).1).2 = none)
    (hq : (readPartitionGeometry rule (some q.minor) lines (gather q timestamp).1).2 = none) :
    (readPartitionGeometry rule (some p.minor) lines (gather p timestamp).1).1.diagnostics =
      (readPartitionGeometry rule (some q.minor) lines (gather q timestamp).1).1.diagnostics := by
  obtain ⟨failed, hfailsp, hfailsq⟩ := h.failsBy
  have hstore := h.gather_sameStore timestamp
  rw [readPartitionGeometry_diagnostics hfailsp hp, readPartitionGeometry_diagnostics hfailsq hq,
    gather_diagnostics, gather_diagnostics, h.listings, hstore.isValid, hstore.mounts]

/-- Providers with the same lines lead to the same snapshot, counts included, or to the same
fault. -/
theorem collect_eq (h : p.SameLines q) (rule : NamingRule) (timestamp : Int) :
    (collect p rule timestamp).2 = (collect q rule timestamp).2 := by
  have hlines : (gather p timestamp).2.partitionGeometry =
      (gather q timestamp).2.partitionGeometry := by rw [h.listings]
  rw [StorageInventory.collect_eq, StorageInventory.collect_eq, hlines]
  obtain ⟨hstore, hfault⟩ := readPartitionGeometry_sameLines h.minor
    (h.gather_sameStore timestamp) rule (gather q timestamp).2.partitionGeometry
  cases hq : (readPartitionGeometry rule (some q.minor) (gather q timestamp).2.partitionGeometry
      (gather q timestamp).1).2 with
  | some fault =>
    rw [hq] at hfault
    rw [present_of_fault hfault, present_of_fault hq]
  | none =>
    rw [hq] at hfault
    have hcounts := h.diagnostics hfault hq
    rw [present_of_isOk hfault, present_of_isOk hq, snapshot_snd, snapshot_snd, hstore.disks,
      hstore.timestamp, hcounts]

end Provider.SameLines

end StorageInventory
