import Mathlib.Tactic
import StorageInventory.Proofs.Collection.Boundary
import StorageInventory.Proofs.Text.Words

/-!
# Which disk a partition belongs to

Under the rule of the geometry listing a partition is named after the disk whose block it stands in.
A name can be read as that of a partition of two disks only if one of them is itself named after the
other, as `ada0s1` is after `ada0`; the disks of a numbered series are not, since their names go on
with a digit.

* `isNamedAfter_of_geometryRule` — the rule accepts only names after the disk of the block,
* `IsNamedAfter.nested` — two disks that a name is after are themselves named one after the other,
* `collect_owned` — so it is in every snapshot, whatever the listings say.
-/

namespace StorageInventory

open Name Pass Text

/-- The name goes on behind that of the disk, and not with a digit, be it of whatever script. -/
def GoesOn (disk name : Text) : Prop := ∃ c rest, name = disk ++ c :: rest ∧ isDigitLike c = false

/-- The name is that of the disk and a word behind it, which has no slash and does not begin with a
digit. -/
def IsNamedAfter (disk name : Text) : Prop :=
  ∃ c rest, name = disk ++ c :: rest ∧ isDigitLike c = false ∧ '/' ∉ c :: rest ∧ IsWord (c :: rest)

/-- A name goes on behind the name of its disk. -/
theorem IsNamedAfter.goesOn {disk name : Text} (h : IsNamedAfter disk name) : GoesOn disk name := by
  obtain ⟨c, rest, hname, hdigit, -⟩ := h
  exact ⟨c, rest, hname, hdigit⟩

/-! ## Names and their beginnings -/

/-- Of two different beginnings of a name the shorter one goes on, inside the longer one, as it does
in the name. -/
theorem GoesOn.of_append_eq {disk other tail name : Text} {c : Char} {rest : Text}
    (hdigit : isDigitLike c = false) (hname : name = disk ++ c :: rest)
    (hother : name = other ++ tail) (hlonger : disk.length < other.length) : GoesOn disk other := by
  rw [hother, List.append_eq_append_iff] at hname
  rcases hname with ⟨middle, hdisk, -⟩ | ⟨middle, hlong, hmiddle⟩
  · -- `other` would be a beginning of `disk`
    rw [hdisk, List.length_append] at hlonger
    omega
  · cases middle with
    | nil => simp [hlong] at hlonger
    | cons d middle =>
      obtain ⟨rfl, -⟩ := List.cons.inj hmiddle
      exact ⟨c, middle, hlong, hdigit⟩

/-- Two disks that one name is after are themselves named one after the other. -/
theorem IsNamedAfter.nested {disk other name : Text} (h : IsNamedAfter disk name)
    (h' : IsNamedAfter other name) (hne : disk ≠ other) :
      GoesOn disk other ∨ GoesOn other disk := by
  obtain ⟨c, rest, hname, hdigit⟩ := h.goesOn
  obtain ⟨c', rest', hname', hdigit'⟩ := h'.goesOn
  rcases lt_trichotomy disk.length other.length with hlt | heq | hlt
  · exact .inl (.of_append_eq hdigit hname hname' hlt)
  · -- beginnings of one length are the same
    rw [hname] at hname'
    exact absurd (List.append_inj_left hname' heq) hne
  · exact .inr (.of_append_eq hdigit' hname' hname hlt)

/-- No name goes on both with a digit and without one. -/
theorem not_goesOn_of_digit (disk : Text) {c : Char} (h : isDigitLike c = true) (rest : Text) :
    ¬ GoesOn disk (disk ++ c :: rest) ∧ ¬ GoesOn (disk ++ c :: rest) disk := by
  constructor
  · rintro ⟨d, tail, heq, hdigit⟩
    obtain ⟨rfl, -⟩ := List.cons.inj (List.append_cancel_left heq)
    rw [h] at hdigit
    exact absurd hdigit (by simp)
  · rintro ⟨d, tail, heq, -⟩
    have hlength := congrArg List.length heq
    simp only [List.length_append, List.length_cons] at hlength
    omega

/-! ## Names that the geometry rule accepts -/

/-- The last token of a line is a word. -/
theorem isWord_lastToken {line : Text} (h : lastToken line ≠ []) : IsWord (lastToken line) := by
  rw [lastToken, List.getLastD_eq_getLast?] at h ⊢
  cases hlast : (tokens line).getLast? with
  | none => simp [hlast] at h
  | some word => exact mem_tokens (List.mem_of_getLast? hlast)

/-- The rule finds names after the disk only. -/
theorem isNamedAfter_of_geometryRule {line disk name : Text}
    (h : geometryRule line disk = some name) : IsNamedAfter disk name := by
  obtain ⟨-, hlast, hslash, c, rest, hname, hdigit⟩ := geometryRule_eq_some h
  have hne : lastToken line ≠ [] := by
    rw [← hlast, hname]
    simp
  have hword := isWord_lastToken hne
  rw [← hlast, hname] at hword
  refine ⟨c, rest, hname, hdigit, fun hmem => ?_, List.cons_ne_nil c rest, fun x hx => ?_⟩
  · have hin : '/' ∈ name := hname ▸ List.mem_append_right disk hmem
    simp [hin] at hslash
  · exact hword.2 x (List.mem_append_right disk hx)

/-! ## Snapshots -/

variable {p : Provider} {timestamp : Int} {snapshot : Snapshot}

/-- A snapshot shows what is registered and accepted. -/
theorem shows_of_collect (hok : (collect p geometryRule timestamp).2 = .ok snapshot) :
    (gather p timestamp).2.Shows snapshot := by
  rcases collect_cases p timestamp with ⟨fault, herror, -⟩ | ⟨other, hother, hshows, -⟩
  · rw [hok] at herror
    simp at herror
  · rw [hok, Except.ok.injEq] at hother
    exact hother ▸ hshows

/-- The partitions of a disk are named after it. -/
theorem Listings.Shows.isNamedAfter {l : Listings} (h : l.Shows snapshot) {disk : Disk}
    (hdisk : disk ∈ snapshot.disks) {partition : Partition} (hp : partition ∈ disk.partitions) :
    IsNamedAfter disk.name partition.name := by
  obtain ⟨b, -, hdevice, line, -, hrule⟩ :=
    ((h.partitions disk hdisk).2 partition.name).1 (List.mem_map_of_mem hp)
  exact isNamedAfter_of_geometryRule hrule

/-- Under the geometry rule, every partition in a snapshot is named after the disk that lists it.
Two disks list partitions of one name only if one of them is named after the other, going on with
something that is no digit; so the disks of a numbered series share none. -/
theorem collect_owned (hok : (collect p geometryRule timestamp).2 = .ok snapshot) :
    (∀ disk ∈ snapshot.disks, ∀ partition ∈ disk.partitions,
        IsNamedAfter disk.name partition.name) ∧
      (∀ disk ∈ snapshot.disks, ∀ other ∈ snapshot.disks, disk ≠ other →
        ∀ a ∈ disk.partitions, ∀ b ∈ other.partitions, a.name = b.name →
          GoesOn disk.name other.name ∨ GoesOn other.name disk.name) ∧
      ∀ disk ∈ snapshot.disks, ∀ other ∈ snapshot.disks, ∀ c rest,
        other.name = disk.name ++ c :: rest → isDigitLike c = true →
          ∀ a ∈ disk.partitions, ∀ b ∈ other.partitions, a.name ≠ b.name := by
  have hshows := shows_of_collect hok
  have hnested : ∀ disk ∈ snapshot.disks, ∀ other ∈ snapshot.disks, disk ≠ other →
      ∀ a ∈ disk.partitions, ∀ b ∈ other.partitions, a.name = b.name →
        GoesOn disk.name other.name ∨ GoesOn other.name disk.name := by
    intro disk hdisk other hother hne a ha b hb hname
    have hnames : disk.name ≠ other.name := fun heq =>
      hne (List.inj_on_of_nodup_map hshows.arranged.nodup hdisk hother heq)
    have hafter := hshows.isNamedAfter hdisk ha
    have hafter' := hshows.isNamedAfter hother hb
    rw [hname] at hafter
    exact hafter.nested hafter' hnames
  refine ⟨fun disk hdisk a ha => hshows.isNamedAfter hdisk ha, hnested, ?_⟩
  -- one name goes on behind the other with a digit, so neither is named after the other
  intro disk hdisk other hother c rest hseries hdigit a ha b hb hname
  have hne : disk ≠ other := by
    rintro rfl
    simp at hseries
  obtain ⟨hnot, hnot'⟩ := not_goesOn_of_digit disk.name hdigit rest
  rw [← hseries] at hnot hnot'
  rcases hnested disk hdisk other hother hne a ha b hb hname with h | h
  · exact hnot h
  · exact hnot' h

/-- A disk whose name begins with that of another, and a partition that both list. -/
theorem collect_owned_da1 :
    let findings : Findings :=
      { devices := .ok ["da1".toList, "da10".toList, "da1p1".toList], mounts := .ok none
        counters := .ok none, diskGeometry := .ok none
        partitionGeometry := .ok
          ["Geom name: da1".toList, "1. Name: da1p1s1".toList, "2. Name: da10p1".toList,
            "Geom name: da10".toList, "1. Name: da10p1".toList,
            "Geom name: da1p1".toList, "1. Name: da1p1s1".toList]
        minor := fun _ => .ok none }
    ∃ snapshot, (collect (.ofFindings findings) geometryRule 7).2 = .ok snapshot ∧
      snapshot.disks.map (fun d => d.partitions.map Partition.name) =
        [["da1p1s1".toList], ["da1p1s1".toList], ["da10p1".toList]] ∧
      ∀ disk ∈ snapshot.disks, ∀ partition ∈ disk.partitions,
        IsNamedAfter disk.name partition.name := by
  intro findings
  obtain ⟨snapshot, hok, hnames⟩ : ∃ snapshot,
      (collect (.ofFindings findings) geometryRule 7).2 = .ok snapshot ∧
        snapshot.disks.map (fun d => d.partitions.map Partition.name) =
          [["da1p1s1".toList], ["da1p1s1".toList], ["da10p1".toList]] := ⟨_, rfl, rfl⟩
  exact ⟨snapshot, hok, hnames, (collect_owned hok).1⟩

end StorageInventory
