import Mathlib.Tactic
import StorageInventory.Proofs.Collection.Boundary
import StorageInventory.Proofs.Collection.Rendering
import StorageInventory.Proofs.Pass.MuteLines
import StorageInventory.Text.Basic

/-!
# Labels in the partition listing

Partitions can carry a label, which is any text, and the partition listing has a line for it.  No
part of a snapshot shows labels, so they should make no difference to the disks.

* `collect_label` — they do not, unless the text has a name mark in it and either the rule takes the
  line for a partition or attributes follow it,
* `not_collect_label_of_mark` — with a name mark a label can end the partition before it, so that
  the attributes behind the label are lost.
-/

namespace StorageInventory

open Name Pass Text

/-! ## Collections that read other lines of partition geometry -/

/-- Whatever lines are read, what is known then differs in the counts at most. -/
theorem fetch_ofLines_alike (s : Session) (source : Text) (lines others : List Text) :
    (s.fetch source (.ofLines lines)).1.Alike (s.fetch source (.ofLines others)).1 := by
  have hjournal : ∀ xs, (s.fetch source (.ofLines xs)).1.Alike s := by
    intro xs
    rw [Session.fetch, Answer.ofLines, Telling.run_pure]
    dsimp only
    rw [List.append_nil]
    split
    · exact Session.alike_tick s _ _
    · exact .refl s
  exact (hjournal lines).trans (hjournal others).symm

/-- The provider with other lines of partition geometry. -/
def Provider.withPartitionLines (p : Provider) (lines : List Text) : Provider :=
  { p with partitionGeometry := .ofLines lines }

/-- The lines of the partition geometry are the ones that were put in their place. -/
theorem gather_withPartitionLines (p : Provider) (timestamp : Int) (lines : List Text) :
    (gather (p.withPartitionLines lines) timestamp).2.partitionGeometry = lines := by
  simp only [gather, fetch_lines, Provider.withPartitionLines]
  rfl

/-- What comes before the partition geometry does not depend on its lines. -/
theorem gather_withPartitionLines_alike (p : Provider) (timestamp : Int)
    (lines others : List Text) :
    (gather (p.withPartitionLines lines) timestamp).1.Alike
      (gather (p.withPartitionLines others) timestamp).1 :=
  fetch_ofLines_alike _ _ lines others

/-- Sessions that differ in their counts have snapshots that do. -/
theorem snapshot_of_alike {s t : Session} (h : s.Alike t) {snapshot : Snapshot}
    (hok : t.snapshot.2 = .ok snapshot) :
    s.snapshot.2 = .ok { snapshot with diagnostics := s.diagnostics.report } := by
  obtain ⟨counts, rfl⟩ := h
  rw [snapshot_snd, bind_eq_ok_iff] at hok ⊢
  obtain ⟨sorted, hsorted, hmap⟩ := hok
  obtain ⟨disks, hdisks, rfl⟩ := map_eq_ok_iff.1 hmap
  exact ⟨sorted, hsorted, map_eq_ok_iff.2 ⟨disks, hdisks, rfl⟩⟩

/-! ## Label lines -/

/-- The beginning of the line with the label of a partition. -/
def freeLabel : Text := "label:".toList

/-- The line with a label. -/
def labelLine (text : Text) : Text := attributeLine freeLabel text

/-- The lines from here on that describe the open partition: up to the next block or mark. -/
def attributesAfter (lines : List Text) : List Text :=
  (lines.map trim).takeWhile fun line => !isBlockHeader line && !includes nameMark line

/-- The free label is a word. -/
theorem isWord_freeLabel : IsWord freeLabel := by decide

/-- A label opens no block. -/
theorem isBlockHeader_labelLine (text : Text) : isBlockHeader (trim (labelLine text)) = false :=
  isPrefixOf_attributeLine isWord_freeLabel rfl text

/-- A label is no attribute that a partition shows. -/
theorem isMute_labelLine (text : Text) : IsMute (trim (labelLine text)) := by
  intro label hlabel
  refine labelled_of_not_prefix ?_
  have hapart : startApart freeLabel label = true := by
    revert label
    decide
  rw [labelLine, isPrefixOf_attributeLine isWord_freeLabel hapart]
  simp

/-- A label without a name mark makes a line without one. -/
theorem includes_labelLine {text : Text} (h : includes nameMark text = false) :
    includes nameMark (trim (labelLine text)) = false :=
  includes_attributeLine (by decide) h

/-- The lines behind a header up to the first name mark are its attributes. -/
theorem sections_sections (lines : List Text) :
    (sections (includes nameMark) (sections isBlockHeader (lines.map trim)).1).1 =
      attributesAfter lines := by
  rw [fst_sections, fst_sections, List.takeWhile_takeWhile, attributesAfter]
  congr 1
  funext line
  cases isBlockHeader line <;> cases includes nameMark line <;> rfl

/-- A label in the partition listing makes no difference to the disks of a snapshot, wherever it
stands and whatever its text is, if there is no name mark in it.  A label with a name mark makes
none if the rule refuses its line in the block that is open there and no attribute follows before
the next block or mark. -/
theorem collect_label {p : Provider} {rule : NamingRule} {timestamp : Int}
    {before after : List Text} {text : Text} {snapshot : Snapshot}
    (hok : (collect (p.withPartitionLines (before ++ after)) rule timestamp).2 = .ok snapshot)
    (htext : includes nameMark text = false ∨
      ∀ device, openDevice before = some device →
        rule (trim (labelLine text)) device = none ∧ ∀ line ∈ attributesAfter after, IsMute line) :
    ∃ snapshot',
      (collect (p.withPartitionLines (before ++ labelLine text :: after)) rule timestamp).2 =
          .ok snapshot' ∧
        snapshot'.disks = snapshot.disks ∧ snapshot'.timestamp = snapshot.timestamp := by
  have hnothing : ∀ device, openDevice before = some device →
      SaysNothing rule device (trim (labelLine text))
        (sections isBlockHeader (after.map trim)).1 := by
    intro device hdevice
    refine ⟨isMute_labelLine text, fun hmark => ?_⟩
    rw [sections_sections]
    rcases htext with hplain | hrefused
    · rw [includes_labelLine hplain] at hmark
      simp at hmark
    · exact hrefused device hdevice
  -- so both passes end in the same store, without a fault if one of them does
  have hpass := readPartitionGeometry_insert (isBlockHeader_labelLine text) hnothing
    (some p.minor)
    (gather_withPartitionLines_alike p timestamp (before ++ labelLine text :: after)
      (before ++ after))
  rw [collect_eq, gather_withPartitionLines, present_eq_ok_iff] at hok
  have hcollected : ∀ snapshot',
      (readPartitionGeometry rule (some p.minor) (before ++ labelLine text :: after)
        (gather (p.withPartitionLines (before ++ labelLine text :: after))
          timestamp).1).1.snapshot.2
          = .ok snapshot' →
      (collect (p.withPartitionLines (before ++ labelLine text :: after)) rule timestamp).2 =
        .ok snapshot' := by
    intro snapshot' hsnapshot
    rw [collect_eq, gather_withPartitionLines, present_eq_ok_iff]
    exact ⟨hpass.2.trans hok.1, hsnapshot⟩
  exact ⟨_, hcollected _ (snapshot_of_alike hpass.1 hok.2), rfl, rfl⟩

/-- The label `Name: root` stands at the end of the first partition, whose attributes it does not
take away, and starts no partition of `ada0`. -/
theorem collect_label_ada0 :
    let p : Provider := .ofFindings
      { devices := .ok ["ada0".toList], mounts := .error .noLines, counters := .ok none
        diskGeometry := .ok none, partitionGeometry := .ok none
        minor := fun _ => .ok ["110".toList] }
    let before : List Text :=
      ["Geom name: ada0".toList, "1. Name: ada0p1".toList, "   rawuuid: 1234-5678".toList]
    let after : List Text := ["2. Name: ada0p2".toList, "   type: freebsd-ufs".toList]
    ∃ snapshot snapshot',
      (collect (p.withPartitionLines (before ++ after)) geometryRule 7).2 = .ok snapshot ∧
        (∀ device, openDevice before = some device →
          geometryRule (trim (labelLine "Name: root".toList)) device = none ∧
            ∀ line ∈ attributesAfter after, IsMute line) ∧
        (collect (p.withPartitionLines (before ++ labelLine "Name: root".toList :: after))
          geometryRule 7).2 = .ok snapshot' ∧
        snapshot'.disks = snapshot.disks ∧ snapshot'.timestamp = snapshot.timestamp := by
  intro p before after
  obtain ⟨snapshot, hok⟩ : ∃ snapshot,
      (collect (p.withPartitionLines (before ++ after)) geometryRule 7).2 = .ok snapshot := ⟨_, rfl⟩
  have htext : ∀ device, openDevice before = some device →
      geometryRule (trim (labelLine "Name: root".toList)) device = none ∧
        ∀ line ∈ attributesAfter after, IsMute line := by
    intro device hdevice
    have hopen : openDevice before = some "ada0".toList := by decide
    have hafter : attributesAfter after = [] := by decide
    rw [hopen, Option.some.injEq] at hdevice
    subst hdevice
    rw [hafter]
    exact ⟨by decide, by simp⟩
  obtain ⟨snapshot', hwith, hsame⟩ := collect_label hok (.inr htext)
  exact ⟨snapshot, snapshot', hok, htext, hwith, hsame⟩

/-! ## Labels with a name mark -/

/-- The lines end inside what describes a partition: behind a line that the rule accepts in the
block of a device in scope, with no other block or mark between. -/
def EndsInPartition (rule : NamingRule) (valid : Text → Bool) (before : List Text) : Prop :=
  ∃ lead boundary middle header body device name,
    before = lead ++ boundary :: (middle ++ header :: body) ∧
      isBlockHeader (trim boundary) = true ∧ lastToken boundary = device ∧ valid device = true ∧
      (∀ line ∈ middle ++ header :: body, isBlockHeader (trim line) = false) ∧
      includes nameMark (trim header) = true ∧ rule (trim header) device = some name ∧
      ∀ line ∈ body, includes nameMark (trim line) = false

/-- A label with a name mark in front of an attribute takes the attribute away from the partition,
also where the rule does not take it for a partition of its own. -/
theorem not_collect_label_of_mark :
    ¬ ∀ (p : Provider) (timestamp : Int) (before after : List Text) (text : Text)
      (snapshot : Snapshot), (∀ c ∈ text, isLineBreak c = false) →
      EndsInPartition geometryRule
        (gather (p.withPartitionLines (before ++ after)) timestamp).2.isValid before →
      (collect (p.withPartitionLines (before ++ after)) geometryRule timestamp).2 = .ok snapshot →
      ∃ snapshot',
        (collect (p.withPartitionLines (before ++ labelLine text :: after)) geometryRule
            timestamp).2 = .ok snapshot' ∧
          snapshot'.disks = snapshot.disks := by
  intro hall
  let p : Provider := .ofFindings
    { devices := .ok ["ada0".toList], mounts := .ok none, counters := .ok none
      diskGeometry := .ok none, partitionGeometry := .ok none, minor := fun _ => .ok none }
  let before : List Text := ["Geom name: ada0".toList, "1. Name: ada0p1".toList]
  let after : List Text := ["   rawuuid: 1234-5678".toList]
  have hends : EndsInPartition geometryRule
      (gather (p.withPartitionLines (before ++ after)) 1000).2.isValid before :=
    ⟨[], "Geom name: ada0".toList, [], "1. Name: ada0p1".toList, [], "ada0".toList,
      "ada0p1".toList, rfl, by decide, by decide, by decide, by decide, by decide, by decide,
      by decide⟩
  obtain ⟨snapshot, hsnapshot⟩ : ∃ snapshot,
      (collect (p.withPartitionLines (before ++ after)) geometryRule 1000).2 = .ok snapshot :=
    ⟨_, rfl⟩
  have hbreaks : ∀ c ∈ "Name: root".toList, isLineBreak c = false := by
    intro c hc
    fin_cases hc <;> rfl
  obtain ⟨snapshot', hwith, hdisks⟩ :=
    hall p 1000 before after "Name: root".toList snapshot hbreaks hends hsnapshot
  -- the identifier is found without the label, and not found with it
  have huuids : (collect (p.withPartitionLines (before ++ after)) geometryRule 1000).2.map
      (fun snapshot => snapshot.disks.map fun disk => disk.partitions.map Partition.uuid) =
        .ok [["1234-5678".toList]] := by rfl
  have hnone : (collect (p.withPartitionLines (before ++ labelLine "Name: root".toList :: after))
      geometryRule 1000).2.map
      (fun snapshot => snapshot.disks.map fun disk => disk.partitions.map Partition.uuid) =
        .ok [[[]]] := by rfl
  rw [hsnapshot, Except.map, Except.ok.injEq] at huuids
  rw [hwith, Except.map, Except.ok.injEq, hdisks, huuids] at hnone
  exact absurd hnone (by decide)

end StorageInventory
