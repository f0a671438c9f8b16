import Mathlib.Tactic
import StorageInventory.CommandLine.Run
import StorageInventory.Proofs.Outcome

/-!
# Which settings can be used

The typed settings give the configured values as they are, so it is their users that find a value
of the wrong kind.  Each user takes some values and fails at the others.

* `Log.Sink.ofConfiguration_isOk_iff` — the settings that the log can be set up with,
* `Host.canGoOn_readSetting`, `Host.canGoOn_listSetting` — the places that can be read and listed,
  whatever the files are and whatever is open,
* `Host.closes_closedBy_iff` — the places that are closed by being read,
* `CommandLine.layout_isOk_iff` — the indentations that a document can be written with.
-/

namespace StorageInventory

open Settings (Configuration Value)

/-! ## The log -/

namespace Log

/-- The names that stand for other things than levels. -/
def oddLevels : List Text := ["BASIC_FORMAT".toList, "_STYLES".toList]

/-- A level has a threshold unless it is one of the odd names. -/
theorem thresholdOf_isOk_iff {name : Text} :
    (∃ threshold, thresholdOf name = .ok threshold) ↔ name ∉ oddLevels := by
  have hname : ∀ s : String, String.ofList name = s → name = s.toList := by
    rintro s rfl
    exact String.toList_ofList.symm
  by_cases hodd : name ∈ oddLevels
  · refine iff_of_false ?_ (not_not.2 hodd)
    rw [oddLevels, List.mem_cons, List.mem_singleton] at hodd
    rcases hodd with rfl | rfl
    · rintro ⟨threshold, h⟩
      exact absurd h (by simp [thresholdOf])
    · rintro ⟨threshold, h⟩
      exact absurd h (by simp [thresholdOf])
  · refine iff_of_true ?_ hodd
    unfold thresholdOf
    split
    all_goals first | exact ⟨_, rfl⟩ | skip
    · next h => exact absurd (hname _ h ▸ by decide) hodd
    · next h => exact absurd (hname _ h ▸ by decide) hodd

/-- A value that a log format can be made of: nothing, or a template with a field in it. -/
def IsFormat (value : Value) : Prop :=
  value.isTruthy = false ∨ ∃ template, value.toTemplate = .ok template ∧ hasField template = true

/-- A format is made exactly of such a value. -/
theorem ofValue_isOk_iff {value : Value} :
    (∃ format, Format.ofValue value = .ok format) ↔ IsFormat value := by
  rw [IsFormat, Format.ofValue]
  by_cases htruthy : value.isTruthy = true
  · have hfield : ∀ template, (∃ format, (if hasField template then .ok ⟨template⟩
        else .error (.formatWithoutField template) : Except Fault Format) = .ok format) ↔
          hasField template = true := by
      intro template
      cases hasField template <;> simp
    simp only [htruthy, Bool.not_true, Bool.false_eq_true, if_false, bind_eq_ok_iff]
    rw [exists_comm]
    simp only [exists_and_left, hfield, Bool.true_eq_false, false_or]
  · simp only [Bool.not_eq_true] at htruthy
    simp [htruthy]

/-- A value that names no log file, or one that can be opened. -/
def IsFileOf (tree : Host.Tree) (value : Value) : Prop :=
  value.isTruthy = false ∨
    ∃ path opened, value.toPath = .ok path ∧ openPath tree path = .ok opened

/-- The log file is opened exactly for such a value. -/
theorem openFile_isOk_iff {tree : Host.Tree} {value : Value} :
    (∃ opened, openFile tree value = .ok opened) ↔ IsFileOf tree value := by
  rw [IsFileOf]
  by_cases htruthy : value.isTruthy = true
  · have hopen : openFile tree value =
        value.toPath.bind fun path => (openPath tree path).map fun opened =>
          (opened.1, some opened.2) := by
      rw [openFile, htruthy]
      cases value.toPath with
      | error fault => rfl
      | ok path => cases openPath tree path <;> rfl
    rw [hopen]
    simp only [bind_eq_ok_iff, map_eq_ok_iff, htruthy, Bool.true_eq_false, false_or]
    constructor
    · rintro ⟨_, path, hpath, opened, hopened, -⟩
      exact ⟨path, opened, hpath, hopened⟩
    · rintro ⟨path, opened, hpath, hopened⟩
      exact ⟨_, path, hpath, opened, hopened, rfl⟩
  · simp only [Bool.not_eq_true] at htruthy
    simp [openFile, htruthy]

/-- The settings that the log can be set up with. -/
structure IsReady (c : Configuration) (isVerbose : Bool) (tree : Host.Tree) : Prop where
  level : isVerbose = true ∨ ∃ name, c.logLevel = .ok name ∧ name ∉ oddLevels
  format : IsFormat c.logFormat
  file : IsFileOf tree c.logFile

/-- The level name that is looked at. -/
def levelOf (c : Configuration) (isVerbose : Bool) : Except Fault Text :=
  if isVerbose then .ok verboseLevel else c.logLevel

/-- There is a threshold exactly if the run is verbose or the configured level has one. -/
theorem levelOf_isOk_iff {c : Configuration} {isVerbose : Bool} :
    (∃ name, levelOf c isVerbose = .ok name ∧ name ∉ oddLevels) ↔
      isVerbose = true ∨ ∃ name, c.logLevel = .ok name ∧ name ∉ oddLevels := by
  rw [levelOf]
  cases isVerbose with
  | true => exact iff_of_true ⟨verboseLevel, rfl, by decide⟩ (.inl rfl)
  | false => simp

/-- The sink comes of the settings one after the other. -/
theorem Sink.snd_ofConfiguration (c : Configuration) (isVerbose : Bool) (tree : Host.Tree) :
    (Sink.ofConfiguration c isVerbose tree).2 =
      (levelOf c isVerbose).bind fun name =>
        (Format.ofValue c.logFormat).bind fun format =>
          (openFile tree c.logFile).bind fun opened =>
            (thresholdOf name).map fun threshold => { threshold, format, file := opened.2 } := by
  unfold Sink.ofConfiguration levelOf
  cases isVerbose with
  | true =>
    rcases Format.ofValue c.logFormat with _ | format
    · rfl
    · rcases openFile tree c.logFile with _ | opened <;> rfl
  | false =>
    rcases c.logLevel with _ | name
    · rfl
    · rcases Format.ofValue c.logFormat with _ | format
      · rfl
      · rcases openFile tree c.logFile with _ | opened <;> rfl

/-- The log can be set up exactly with such settings. -/
theorem Sink.ofConfiguration_isOk_iff {c : Configuration} {isVerbose : Bool} {tree : Host.Tree} :
    (∃ sink, (Sink.ofConfiguration c isVerbose tree).2 = .ok sink) ↔ IsReady c isVerbose tree := by
  have hready : IsReady c isVerbose tree ↔
      (∃ name, levelOf c isVerbose = .ok name ∧ name ∉ oddLevels) ∧
        IsFormat c.logFormat ∧ IsFileOf tree c.logFile := by
    rw [levelOf_isOk_iff]
    exact ⟨fun h => ⟨h.level, h.format, h.file⟩, fun h => ⟨h.1, h.2.1, h.2.2⟩⟩
  rw [hready, ← ofValue_isOk_iff, ← openFile_isOk_iff, Sink.snd_ofConfiguration]
  simp only [bind_eq_ok_iff, map_eq_ok_iff, ← thresholdOf_isOk_iff]
  constructor
  · rintro ⟨sink, name, hname, format, hformat, opened, hopened, threshold, hthreshold, -⟩
    exact ⟨⟨name, hname, threshold, hthreshold⟩, ⟨format, hformat⟩, ⟨opened, hopened⟩⟩
  · rintro ⟨⟨name, hname, threshold, hthreshold⟩, ⟨format, hformat⟩, ⟨opened, hopened⟩⟩
    exact ⟨_, name, hname, format, hformat, opened, hopened, threshold, hthreshold, rfl⟩

end Log

/-! ## Places -/

namespace Host

/-- A path that the system is asked for, or one that is refused as the system would refuse it. -/
def isUsable : Except Fault Text → Bool
  | .ok path => !path.elem '\x00'
  | .error fault => fault.isSystem

/-- Where the file that a setting names cannot be read, this counts as a missing file. -/
def isReadable (value : Value) : Bool := (descriptor? value).isSome || isUsable value.toPath

/-- Where the directory that a setting names cannot be listed, this counts as a missing one. -/
def isListable : Value → Bool
  | .text path => isUsable (.ok path)
  | .foreign f => isUsable f.directory
  | .null | .bool _ => true
  | .int n => -descriptorLimit ≤ n && n < descriptorLimit
  | _ => false

/-- A path with U+0000 is refused before the system sees it; all else is for the system to refuse.
-/
theorem Tree.locate_cases (tree : Tree) (path : Text) :
    (path.elem '\x00' = true ∧ tree.locate path = .error .nulInPath) ∨
      (path.elem '\x00' = false ∧ ((∃ place, tree.locate path = .ok place) ∨
        ∃ error, tree.locate path = .error (.system error path))) := by
  rw [locate, withPath]
  cases hnul : path.elem '\x00' with
  | true => exact .inl ⟨rfl, rfl⟩
  | false =>
    refine .inr ⟨rfl, ?_⟩
    rw [if_neg (by simp)]
    split_ifs
    · exact .inr ⟨_, rfl⟩
    · exact .inr ⟨_, rfl⟩
    · cases tree.walk false linkLimit (tree.start path) (Path.components path) with
      | ok place => exact .inl ⟨place, rfl⟩
      | error error => exact .inr ⟨error, rfl⟩

/-- Reading a file can be gone on from, unless the path holds U+0000. -/
theorem canGoOn_read (tree : Tree) (path : Text) :
    canGoOn (tree.read path) = !path.elem '\x00' := by
  rw [Tree.read]
  rcases tree.locate_cases path with ⟨hnul, h⟩ | ⟨hnul, ⟨place, h⟩ | ⟨error, h⟩⟩
  · rw [h, hnul]
    rfl
  · rw [h, hnul]
    dsimp only
    split <;> rfl
  · rw [h, hnul]
    rfl

/-- Listing a directory can be gone on from, unless the path holds U+0000. -/
theorem canGoOn_list (tree : Tree) (path : Text) :
    canGoOn (tree.list path) = !path.elem '\x00' := by
  rw [Tree.list]
  rcases tree.locate_cases path with ⟨hnul, h⟩ | ⟨hnul, ⟨place, h⟩ | ⟨error, h⟩⟩
  · rw [h, hnul]
    rfl
  · rw [h, hnul]
    dsimp only
    split <;> rfl
  · rw [h, hnul]
    rfl

/-- Reading what a setting names can be gone on from exactly if the path is usable. -/
theorem canGoOn_bind_read (tree : Tree) (path : Except Fault Text) :
    canGoOn (path.bind tree.read) = isUsable path := by
  cases path with
  | ok path => exact canGoOn_read tree path
  | error fault => rfl

/-- What is open under a number can be read, or the system refuses to. -/
theorem canGoOn_readSetting_of_descriptor {value : Value} {n : Int} (h : descriptor? value = some n)
    (read : Text → Except Fault (List UInt8)) (opened : Descriptors) :
    canGoOn (readSetting read opened value) = true := by
  unfold readSetting
  simp only [h]
  rcases opened n with _ | ⟨error | bytes⟩ | names <;> rfl

/-- Whatever the files are and whatever is open, it depends on the setting alone whether one can go
on with the file that it names. -/
theorem canGoOn_readSetting (tree : Tree) (opened : Descriptors) (value : Value) :
    canGoOn (readSetting tree.read opened value) = isReadable value := by
  rw [isReadable]
  cases hnumber : descriptor? value with
  | some n => exact canGoOn_readSetting_of_descriptor hnumber _ _
  | none =>
    unfold readSetting
    simp only [hnumber, Option.isSome_none, Bool.false_or]
    cases value with
    | int n =>
      -- a number that is no descriptor is refused here, and a number is no path
      dsimp only
      split_ifs <;> rfl
    | _ => exact canGoOn_bind_read tree _

/-- What is open under a number can be listed, or the system refuses to. -/
theorem canGoOn_listDescriptor (opened : Descriptors) (value : Value) (n : Int) :
    canGoOn (listDescriptor opened value n) = true := by
  rw [listDescriptor]
  rcases opened n with _ | found | names <;> rfl

/-- The same is true of the directory that a setting names. -/
theorem canGoOn_listSetting (tree : Tree) (opened : Descriptors) (value : Value) :
    canGoOn (listSetting tree.list opened value) = isListable value := by
  cases value with
  | null => exact (canGoOn_map _ _).trans (canGoOn_list tree here)
  | text path => exact (canGoOn_map _ _).trans (canGoOn_list tree path)
  | bool b => exact canGoOn_listDescriptor opened _ _
  | int n =>
    rw [listSetting, isListable]
    -- a number out of range is a fault of its own, and one in range is looked up
    by_cases hlarge : descriptorLimit ≤ n
    · simp [canGoOn, Fault.isSystem, hlarge]
    · by_cases hsmall : n < -descriptorLimit
      · simp [canGoOn, Fault.isSystem, hlarge, hsmall]
      · have hrange : -descriptorLimit ≤ n ∧ n < descriptorLimit := by omega
        rw [if_neg hlarge, if_neg hsmall]
        simp only [hrange, decide_true, Bool.and_self]
        split_ifs
        · exact (canGoOn_map _ _).trans (canGoOn_list tree here)
        · exact canGoOn_listDescriptor opened _ _
  | foreign f =>
    rw [listSetting, isListable]
    cases f.directory with
    | ok path => exact (canGoOn_map _ _).trans (canGoOn_list tree path)
    | error fault => rfl
  | _ => rfl

/-- The setting is the number of a stream that is open, which is closed when it has been read. -/
def Closes (opened : Descriptors) (value : Value) (n : Int) : Prop :=
  descriptor? value = some n ∧ ∃ found, opened n = some (.stream found)

/-- Reading closes exactly the stream that the setting is the number of. -/
theorem closes_closedBy_iff {opened : Descriptors} {value : Value} {n : Int} :
    (closedBy opened value).closes n = true ↔ Closes opened value n := by
  rw [Closes, closedBy]
  cases descriptor? value with
  | none => simp [Journal.closes]
  | some m =>
    simp only [Option.some.injEq]
    constructor
    · intro h
      split at h
      · next found hfound =>
        obtain rfl : m = n := by simpa [Journal.closes, JournalEntry.closes] using h
        exact ⟨rfl, found, hfound⟩
      · simp [Journal.closes] at h
    · rintro ⟨rfl, found, hfound⟩
      simp [hfound, Journal.closes, JournalEntry.closes]

end Host

/-! ## The document -/

namespace CommandLine

/-- The document can be indented as the configuration says, given the widest indentation that there
is memory for. -/
def CanIndent (widest : Int) (c : Configuration) : Prop :=
  ∃ indent, c.outputIndent = .ok indent ∧
    ∀ n, indent = some n → -indentLimit ≤ n ∧ n < indentLimit ∧ n ≤ widest

/-- A document has a layout exactly if it can be indented. -/
theorem layout_isOk_iff {widest : Int} {c : Configuration} :
    (∃ l, layout widest c = .ok l) ↔ CanIndent widest c := by
  rw [CanIndent, layout]
  cases c.outputIndent with
  | error fault =>
    refine iff_of_false ?_ ?_
    · rintro ⟨l, hl⟩
      cases hl
    · rintro ⟨indent, hindent, -⟩
      cases hindent
  | ok indent =>
    cases indent with
    | none => exact iff_of_true ⟨.oneLine, rfl⟩ ⟨none, rfl, fun n hn => nomatch hn⟩
    | some n =>
      -- both say of the one width that is configured that it lies in the range
      have hrange : (∃ indent, (.ok (some n) : Except Fault (Option Int)) = .ok indent ∧
          ∀ m, indent = some m → -indentLimit ≤ m ∧ m < indentLimit ∧ m ≤ widest) ↔
            -indentLimit ≤ n ∧ n < indentLimit ∧ n ≤ widest := by simp
      rw [hrange]
      change (∃ l, (if n < -indentLimit || indentLimit ≤ n then throw .indentTooLarge
        else if widest < n then throw .outOfMemory
        else return .lines n.toNat : Except Fault Json.Layout) = .ok l) ↔ _
      split_ifs with hlimit hmemory
      · simp only [Bool.or_eq_true, decide_eq_true_eq] at hlimit
        exact iff_of_false (fun ⟨_, hl⟩ => nomatch hl) (by omega)
      · exact iff_of_false (fun ⟨_, hl⟩ => nomatch hl) (by omega)
      · simp only [Bool.or_eq_true, decide_eq_true_eq] at hlimit
        exact iff_of_true ⟨_, rfl⟩ (by omega)

end CommandLine

end StorageInventory
