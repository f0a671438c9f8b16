import Mathlib.Tactic
import StorageInventory.Linux.MountTable
import StorageInventory.Proofs.Outcome
import StorageInventory.Proofs.Text.Pieces

/-!
# Entries of the mount table

The system writes one row for each mount: six fields with single spaces between them, and the spaces
of a volume or a path escaped.  Escaping is undone exactly, so a row is read for what it was written
from.  Whether a mount is left out is told by the components of its path: a tree of the system holds
the paths that begin with its own components, and not those that only begin with its name.

Every store needs its space.  A system that refuses to tell it leaves it at zero; but a path with
U+0000 never comes before the system, and such a path ends the reading of the whole table.

* `readRow_eq`, `exists_readMounts_iff` — what rows are read for, and which tables are read,
* `unescape_escape` — a text without backslashes survives,
* `isExcluded_iff` — the mounts that are left out, by components,
* `Lists.shown` — the rows of a listing that are shown are those of its mounts,
* `readMounts_decodes` — the stores of a listing, with other lines among its rows.
-/

namespace StorageInventory.Linux

open Text

/-! ## Reading rows -/

/-- The volume as a row writes it. -/
def writtenVolume (row : Text) : Text := (fields ' ' row).headD []

/-- The row is that of a mount that is not left out. -/
def isShown (row : Text) : Bool :=
  match fields ' ' row with
  | _ :: path :: kind :: _ :: _ :: _ :: _ => !isExcluded kind (unescape path)
  | _ => false

/-- The path of the mount of a row. -/
def mountPath (row : Text) : Text := unescape ((fields ' ' row).getD 1 [])

/-- The type of the mount of a row. -/
def mountKind (row : Text) : Text := (fields ' ' row).getD 2 []

/-- A row that is shown is read for its store, and any other line for none. -/
theorem readRow_eq (uuids : Table Text) (spaceOf : SpaceOf) (row : Text) :
    readRow uuids spaceOf row =
      if isShown row then
        (storeSpace spaceOf (mountPath row)).map fun space =>
          some (rowStore uuids (writtenVolume row) (mountPath row) (mountKind row) space)
      else .ok none := by
  rw [readRow, isShown, writtenVolume, mountPath, mountKind]
  -- only a row of six fields has a store
  rcases fields ' ' row with _ | ⟨volume, _ | ⟨path, _ | ⟨kind, _ | ⟨_, _ | ⟨_, _ | ⟨_, _⟩⟩⟩⟩⟩⟩
  · rfl
  · rfl
  · rfl
  · rfl
  · rfl
  · rfl
  · by_cases hout : isExcluded kind (unescape path) = true <;> simp [hout]

/-- The stores of a table are those of its rows that are shown, in order. -/
theorem readMounts_eq (uuids : Table Text) (spaceOf : SpaceOf) (rows : List Text) :
    readMounts uuids spaceOf rows =
      (rows.filter isShown).mapM fun row =>
        (storeSpace spaceOf (mountPath row)).map
          (rowStore uuids (writtenVolume row) (mountPath row) (mountKind row)) := by
  induction rows with
  | nil => rfl
  | cons row rest ih =>
    rw [readMounts, readRow_eq, ih]
    cases hshown : isShown row with
    | false =>
      rw [List.filter_cons_of_neg (by simp [hshown]), if_neg Bool.false_ne_true]
      exact congrFun Except.map_id _
    | true =>
      rw [List.filter_cons_of_pos hshown, List.mapM_cons, if_pos rfl]
      cases storeSpace spaceOf (mountPath row) <;> rfl

/-! ## The space of a store -/

/-- The space is what is told, or nothing where the system refuses to tell. -/
def Tells (spaceOf : SpaceOf) (path : Text) (space : Int × Int) : Prop :=
  spaceOf path = .ok space ∨
    ∃ fault, spaceOf path = .error fault ∧ fault.isSystem = true ∧ space = (0, 0)

/-- A store has the space that the system tells of it, and none at all where the system refuses. -/
theorem storeSpace_eq_ok_iff {spaceOf : SpaceOf} {path : Text} {space : Int × Int} :
    storeSpace spaceOf path = .ok space ↔ Tells spaceOf path space := by
  rw [storeSpace, Tells]
  cases spaceOf path with
  | ok told => simp
  | error fault => cases hsystem : fault.isSystem <;> grind

/-- A store has its space exactly if one can go on with what is told. -/
theorem exists_storeSpace_iff {spaceOf : SpaceOf} {path : Text} :
    (∃ space, storeSpace spaceOf path = .ok space) ↔ canGoOn (spaceOf path) = true := by
  rw [storeSpace]
  cases spaceOf path with
  | ok told => simp [canGoOn]
  | error fault => cases hsystem : fault.isSystem <;> simp [canGoOn, hsystem]

/-- A fault that is not the system's is that of reading the row. -/
theorem storeSpace_eq_error {spaceOf : SpaceOf} {path : Text} {fault : Fault}
    (h : spaceOf path = .error fault) (hother : fault.isSystem = false) :
    storeSpace spaceOf path = .error fault := by
  rw [storeSpace, h]
  simp [hother]

/-- What a system is asked for one can go on with, but for a path that it is not asked for. -/
theorem canGoOn_systemSpace (ask : Text → Except SystemError (Int × Int)) (path : Text) :
    canGoOn (systemSpace ask path) = !path.elem '\x00' := by
  rw [systemSpace, Host.Tree.withPath]
  cases hnul : path.elem '\x00' with
  | true => rfl
  | false =>
    rw [if_neg Bool.false_ne_true]
    split_ifs
    · rfl
    · rfl
    · cases ask path <;> rfl

/-- A table is read exactly if one can go on with the space of every row that is shown. -/
theorem exists_readMounts_iff {uuids : Table Text} {spaceOf : SpaceOf} {rows : List Text} :
    (∃ stores, readMounts uuids spaceOf rows = .ok stores) ↔
      ∀ row ∈ rows.filter isShown, canGoOn (spaceOf (mountPath row)) = true := by
  rw [readMounts_eq, exists_mapM_eq_ok_iff]
  simp only [exists_map_eq_ok_iff, exists_storeSpace_iff]

/-! ## Escaping -/

/-- A text as a row writes it, with its spaces escaped. -/
def escape (text : Text) : Text := text.flatMap fun c => if c = ' ' then escapedSpace else [c]

/-- What was escaped has no spaces. -/
theorem space_not_mem_escape (text : Text) : ' ' ∉ escape text := by
  intro h
  obtain ⟨c, -, hc⟩ := List.mem_flatMap.1 h
  split at hc
  · exact absurd hc (by decide)
  · next hspace => exact hspace (List.mem_singleton.1 hc).symm

/-- An escaped space becomes a space. -/
theorem unescape_escapedSpace (rest : Text) :
    unescape (escapedSpace ++ rest) = ' ' :: unescape rest :=
  replaceAll_append (by decide) [' '] rest

/-- A character that is no backslash stands for itself. -/
theorem unescape_cons {c : Char} (h : c ≠ '\\') (rest : Text) :
    unescape (c :: rest) = c :: unescape rest := by
  refine replaceAll_cons ?_ [' ']
  rw [← Bool.not_eq_true, List.isPrefixOf_iff_prefix]
  rintro ⟨behind, hbehind⟩
  exact h (List.cons.inj hbehind).1.symm

/-- Escaping is undone, unless the text could be taken for an escaped one. -/
theorem unescape_escape {text : Text} (h : '\\' ∉ text) : unescape (escape text) = text := by
  induction text with
  | nil => rfl
  | cons c rest ih =>
    rw [List.mem_cons, not_or] at h
    rw [escape, List.flatMap_cons, ← escape]
    split
    · next hspace => rw [unescape_escapedSpace, ih h.2, hspace]
    · rw [List.singleton_append, unescape_cons (Ne.symm h.1), ih h.2]

/-! ## Mounts that are left out -/

/-- The path is the directory of devices, or its components begin with those of a tree of the
system. -/
def IsSystemPath (path : Text) : Prop :=
  path = "/dev".toList ∨ ∃ tree ∈ systemTrees, fields '/' tree <+: fields '/' path

instance (path : Text) : Decidable (IsSystemPath path) :=
  inferInstanceAs (Decidable (_ ∨ _))

/-- A path is under one of some trees if it begins with all fields of one. -/
theorem isUnder_iff {trees : List Text} {path : Text} :
    isUnder trees path = true ↔ ∃ tree ∈ trees, fields '/' tree <+: fields '/' path := by
  simp only [isUnder, List.any_eq_true, Bool.or_eq_true, decide_eq_true_eq,
    List.isPrefixOf_iff_prefix, fields_prefix_iff]

/-- A mount is left out if its type is no real one or its path is the system's. -/
theorem isExcluded_iff {kind path : Text} :
    isExcluded kind path = true ↔ kind ∈ pseudoTypes ∨ IsSystemPath path := by
  rw [isExcluded, Bool.or_eq_true, Bool.or_eq_true, decide_eq_true_eq, isUnder_iff, or_assoc,
    List.elem_eq_mem, decide_eq_true_eq, IsSystemPath]

/-- A path in which the name of a tree goes on is not one of the system. -/
theorem not_isSystemPath_append {tree : Text} (htree : tree ∈ systemTrees) {c : Char} (hc : c ≠ '/')
    (rest : Text) : ¬ IsSystemPath (tree ++ c :: rest) := by
  simp only [IsSystemPath, fields_prefix_iff, systemTrees, List.map_cons, List.map_nil,
    List.mem_cons, List.not_mem_nil, or_false] at htree ⊢
  -- no tree begins with another one, so only the tree itself could hold the path
  rcases htree with rfl | rfl | rfl | rfl <;> simp [Ne.symm hc]

/-! ## Rows -/

/-- A mount as the system tells of it. -/
structure MountEntry where
  volume : Text
  path : Text
  kind : Text
  options : Text
  dump : Text
  pass : Text
  deriving DecidableEq

namespace MountEntry

/-- The fields of the row. -/
def rowFields (e : MountEntry) : List Text :=
  [escape e.volume, escape e.path, e.kind, e.options, e.dump, e.pass]

/-- The row of the mount. -/
def row (e : MountEntry) : Text := [' '].intercalate e.rowFields

/-- The row can be read back: what is escaped has no backslash, and what is not has no space. -/
@[mk_iff]
structure IsWritable (e : MountEntry) : Prop where
  volume : '\\' ∉ e.volume
  path : '\\' ∉ e.path
  kind : ' ' ∉ e.kind
  options : ' ' ∉ e.options
  dump : ' ' ∉ e.dump
  pass : ' ' ∉ e.pass

instance (e : MountEntry) : Decidable e.IsWritable := decidable_of_iff' _ (isWritable_iff e)

/-- The mount is left out. -/
def IsLeftOut (e : MountEntry) : Prop := e.kind ∈ pseudoTypes ∨ IsSystemPath e.path

instance (e : MountEntry) : Decidable e.IsLeftOut := inferInstanceAs (Decidable (_ ∨ _))

/-- The store is that of the mount, with the space that is told of its path. -/
structure IsStore (spaceOf : SpaceOf) (e : MountEntry) (s : FileStore) : Prop where
  volume : s.volume = e.volume
  mount : s.mount = e.path
  kind : s.kind = e.kind
  name : s.name = if e.path = ['/'] then ['/'] else e.volume
  description : s.description = describeVolume e.volume e.kind
  space : Tells spaceOf e.path (s.usableSpace, s.totalSpace)

variable {e : MountEntry}

/-- A row has the six fields that it was written from. -/
theorem IsWritable.fields_row (h : e.IsWritable) : fields ' ' e.row = e.rowFields := by
  refine fields_intercalate ?_ (by simp [rowFields])
  simp only [rowFields, List.forall_mem_cons, List.not_mem_nil, false_imp_iff,
    implies_true, and_true]
  exact ⟨space_not_mem_escape _, space_not_mem_escape _, h.kind, h.options, h.dump, h.pass⟩

/-- The row is shown exactly if the mount is not left out. -/
theorem IsWritable.isShown_row (h : e.IsWritable) : isShown e.row = true ↔ ¬ e.IsLeftOut := by
  rw [isShown, h.fields_row, rowFields]
  dsimp only
  rw [unescape_escape h.path, Bool.not_eq_true', ← Bool.not_eq_true, isExcluded_iff, IsLeftOut]

/-- The store of the row, with its space. -/
def store (uuids : Table Text) (e : MountEntry) (space : Int × Int) : FileStore :=
  rowStore uuids (escape e.volume) e.path e.kind space

/-- The row is read for the store of the mount. -/
theorem IsWritable.rowStore_row (h : e.IsWritable) (uuids : Table Text) (spaceOf : SpaceOf) :
    (storeSpace spaceOf (mountPath e.row)).map
        (rowStore uuids (writtenVolume e.row) (mountPath e.row) (mountKind e.row)) =
      (storeSpace spaceOf e.path).map (e.store uuids) := by
  have hpath : mountPath e.row = e.path := by
    rw [mountPath, h.fields_row]
    exact unescape_escape h.path
  rw [hpath, writtenVolume, mountKind, h.fields_row]
  rfl

/-- The store of the row is that of the mount. -/
theorem IsWritable.isStore (h : e.IsWritable) {uuids : Table Text} {spaceOf : SpaceOf}
    {s : FileStore} (hs : (storeSpace spaceOf e.path).map (e.store uuids) = .ok s) :
    e.IsStore spaceOf s := by
  obtain ⟨space, hspace, rfl⟩ := map_eq_ok_iff.1 hs
  have hvolume : unescape (escape e.volume) = e.volume := unescape_escape h.volume
  refine ⟨hvolume, rfl, rfl, ?_, ?_, storeSpace_eq_ok_iff.1 hspace⟩
  · simp only [store, rowStore, hvolume]
  · simp only [store, rowStore, hvolume]

end MountEntry

/-- A line with fewer than six fields is no row. -/
theorem isShown_of_short {line : Text} (h : (fields ' ' line).length < 6) :
    isShown line = false := by
  rw [isShown]
  split
  · next heq =>
    rw [heq] at h
    simp only [List.length_cons] at h
    omega
  · rfl

/-! ## Listings -/

/-- The lines are the rows of the mounts, in order, with lines among them that are too short for a
row. -/
inductive Lists : List MountEntry → List Text → Prop
  | nil : Lists [] []
  | row {entries : List MountEntry} {lines : List Text} {e : MountEntry} (hwritable : e.IsWritable)
      (h : Lists entries lines) : Lists (e :: entries) (e.row :: lines)
  | short {entries : List MountEntry} {lines : List Text} {line : Text}
      (hshort : (fields ' ' line).length < 6) (h : Lists entries lines) :
      Lists entries (line :: lines)

/-- The mounts that are not left out. -/
def shownEntries (entries : List MountEntry) : List MountEntry :=
  entries.filter fun e => ¬ e.IsLeftOut

/-- The rows of a listing that are shown are those of the mounts that are not left out, which can be
read back. -/
theorem Lists.shown {entries : List MountEntry} {lines : List Text} (h : Lists entries lines) :
    lines.filter isShown = (shownEntries entries).map MountEntry.row ∧
      ∀ e ∈ shownEntries entries, e.IsWritable := by
  induction h with
  | nil => exact ⟨rfl, by simp [shownEntries]⟩
  | @row entries lines e hwritable _ ih =>
    rw [shownEntries] at ih ⊢
    by_cases hout : e.IsLeftOut
    · have hrow : ¬ isShown e.row = true := by
        rw [hwritable.isShown_row]
        exact not_not.2 hout
      rwa [List.filter_cons_of_neg hrow, List.filter_cons_of_neg (by simpa using hout)]
    · rw [List.filter_cons_of_pos (hwritable.isShown_row.2 hout),
        List.filter_cons_of_pos (by simpa using hout), List.map_cons, ih.1]
      exact ⟨rfl, List.forall_mem_cons.2 ⟨hwritable, ih.2⟩⟩
  | short hshort _ ih =>
    rwa [List.filter_cons_of_neg (by simp [isShown_of_short hshort])]

/-- The stores of a listing are those of its mounts that are not left out. -/
theorem Lists.readMounts_eq {entries : List MountEntry} {lines : List Text}
    (h : Lists entries lines)
    (uuids : Table Text) (spaceOf : SpaceOf) :
    readMounts uuids spaceOf lines =
      (shownEntries entries).mapM fun e => (storeSpace spaceOf e.path).map (e.store uuids) := by
  rw [Linux.readMounts_eq, h.shown.1, List.mapM_map]
  exact mapM_congr fun e he => (h.shown.2 e he).rowStore_row uuids spaceOf

/-- A listing is read into one store for each of its mounts that is not left out, in order, if one
can go on with the space of all of these.  Otherwise there are no stores at all: the first mount
with which one cannot go on ends the reading with its fault.  A system that is asked tells of every
path but those with U+0000.  What is left out for its path are the trees of the system, and never a
path in which the name of one only goes on. -/
theorem readMounts_decodes {entries : List MountEntry} {lines : List Text}
    (h : Lists entries lines) (uuids : Table Text) (spaceOf : SpaceOf) :
    ((∀ e ∈ shownEntries entries, canGoOn (spaceOf e.path) = true) →
      ∃ stores, readMounts uuids spaceOf lines = .ok stores ∧
        List.Forall₂ (MountEntry.IsStore spaceOf) (shownEntries entries) stores) ∧
    (∀ before e after fault, shownEntries entries = before ++ e :: after →
      (∀ b ∈ before, canGoOn (spaceOf b.path) = true) → spaceOf e.path = .error fault →
        fault.isSystem = false → readMounts uuids spaceOf lines = .error fault) ∧
    (∀ ask, (∃ stores, readMounts uuids (systemSpace ask) lines = .ok stores) ↔
      ∀ e ∈ shownEntries entries, '\x00' ∉ e.path) ∧
    ∀ tree ∈ systemTrees, ∀ c rest, c ≠ '/' → ¬ IsSystemPath (tree ++ c :: rest) := by
  -- a row has a store if its space is told or the system refuses to tell it
  have htold : ∀ {spaceOf : SpaceOf} {e : MountEntry},
      (∃ s, (storeSpace spaceOf e.path).map (e.store uuids) = .ok s) ↔
        canGoOn (spaceOf e.path) = true :=
    exists_map_eq_ok_iff.trans exists_storeSpace_iff
  refine ⟨fun hall => ?_, fun before e after fault hsplit hbefore hfault hother => ?_,
    fun ask => ?_,
    fun tree htree c rest hc => not_isSystemPath_append htree hc rest⟩
  · rw [h.readMounts_eq]
    obtain ⟨stores, hstores⟩ := exists_mapM_eq_ok_iff.2 fun e he => htold.2 (hall e he)
    refine ⟨stores, hstores, ?_⟩
    have hboth := (List.forall₂_and_left _ _).2 ⟨h.shown.2, mapM_eq_ok_iff.1 hstores⟩
    exact hboth.imp fun e s hes => hes.1.isStore hes.2
  · rw [h.readMounts_eq, hsplit]
    refine mapM_eq_error (fun b hb => htold.2 (hbefore b hb)) ?_
    rw [storeSpace_eq_error hfault hother]
    rfl
  · rw [h.readMounts_eq, exists_mapM_eq_ok_iff]
    refine forall₂_congr fun e _ => htold.trans ?_
    rw [canGoOn_systemSpace, Bool.not_eq_true', List.elem_eq_mem, decide_eq_false_iff_not]

/-- A volume and a path with spaces, a line that is too short, a mount below `/run` and one at
`/run2`; and a mount with U+0000 in its path, which makes the whole table unreadable. -/
theorem readMounts_decodes_run2 :
    let disk := MountEntry.mk "/dev/my disk".toList "/mnt/My Files".toList "ext4".toList "rw".toList
      ['0'] ['0']
    let memory := MountEntry.mk "tmpfs".toList "/run2".toList "tmpfs".toList "rw".toList ['0'] ['0']
    let entries := [disk,
      .mk "tmpfs".toList "/run/user".toList "tmpfs".toList "rw".toList ['0'] ['0'], memory]
    let lines := ["/dev/my\\040disk /mnt/My\\040Files ext4 rw 0 0".toList, "short line".toList,
      "tmpfs /run/user tmpfs rw 0 0".toList, "tmpfs /run2 tmpfs rw 0 0".toList]
    let cut := MountEntry.mk "/dev/sda1".toList "/mnt/a\x00b".toList "ext4".toList "rw".toList
      ['0'] ['0']
    let spaceOf := systemSpace fun path =>
      if path = "/mnt/My Files".toList then .ok (3, 7) else .error .noEntry
    Lists entries lines ∧ Lists (entries ++ [cut]) (lines ++ [cut.row]) ∧
      (∃ first second, readMounts [] spaceOf lines = .ok [first, second] ∧
        disk.IsStore spaceOf first ∧ memory.IsStore spaceOf second ∧
        (first.usableSpace, first.totalSpace) = (3, 7) ∧
        (second.usableSpace, second.totalSpace) = (0, 0)) ∧
      readMounts [] spaceOf (lines ++ [cut.row]) = .error .nulInPath := by
  intro disk memory entries lines cut spaceOf
  have hlists : Lists entries lines :=
    .row (by decide) (.short (by decide) (.row (by decide) (.row (by decide) .nil)))
  have hcut : Lists (entries ++ [cut]) (lines ++ [cut.row]) :=
    .row (by decide) (.short (by decide) (.row (by decide) (.row (by decide)
      (.row (by decide) .nil))))
  have hshown : shownEntries entries = [disk, memory] := by decide
  have hshowncut : shownEntries (entries ++ [cut]) = [disk, memory] ++ cut :: [] := by decide
  have hdisk : spaceOf disk.path = .ok (3, 7) := rfl
  have hmemory : spaceOf memory.path = .error (.system .noEntry memory.path) := rfl
  have hgo : ∀ e ∈ [disk, memory], canGoOn (spaceOf e.path) = true := by
    simp only [List.forall_mem_cons, hdisk, hmemory]
    exact ⟨rfl, rfl, by simp⟩
  refine ⟨hlists, hcut, ?_, ?_⟩
  · obtain ⟨stores, hread, hstores⟩ :=
      (readMounts_decodes hlists [] spaceOf).1 (by rwa [hshown])
    rw [hshown, List.forall₂_cons_left_iff] at hstores
    obtain ⟨first, rest, hfirst, hrest, rfl⟩ := hstores
    obtain ⟨second, none, hsecond, hnone, rfl⟩ := List.forall₂_cons_left_iff.1 hrest
    obtain rfl := List.forall₂_nil_left_iff.1 hnone
    refine ⟨first, second, hread, hfirst, hsecond, ?_, ?_⟩
    · rcases hfirst.space with htold | ⟨fault, hfault, -⟩
      · exact (Except.ok.inj (hdisk.symm.trans htold)).symm
      · exact absurd (hdisk.symm.trans hfault) (by simp)
    · rcases hsecond.space with htold | ⟨fault, -, -, hzero⟩
      · exact absurd (hmemory.symm.trans htold) (by simp)
      · exact hzero
  · exact (readMounts_decodes hcut [] spaceOf).2.1 _ _ _ _ hshowncut hgo rfl rfl

end StorageInventory.Linux
