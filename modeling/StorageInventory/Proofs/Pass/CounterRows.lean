import Mathlib.Tactic
import StorageInventory.Proofs.Number.Tenths
import StorageInventory.Proofs.Pass.PassAmounts

/-!
# What a counter row says of its device

Of the rows of a device the last one counts, and what was known of the device before makes no
difference to its counters.  So they can be told from the columns of that row.

* `get?_readCounters` — the record of a device after the pass,
* `readCounters_counts` — counts and bytes are exact, as far as fractions go,
* `readCounters_busyTime` — the time in milliseconds is exact unless the seconds fall short.
-/

namespace StorageInventory.Pass

open Number Text

variable {s : Session} {after : List Text} {line device : Text}

/-- The record of a device after the pass: its last row is put in. -/
theorem get?_readCounters (before : List Text) (hvalid : s.isValid device = true)
    (hrow : IsCounterRow line device) (hlast : ∀ row ∈ after, ¬ IsCounterRow row device) :
    ∃ earlier, (readCounters (before ++ line :: after) s).disks.get? device =
      some (setCounters s.timestamp device (tokens line) earlier) := by
  obtain ⟨hlength, hhead⟩ := hrow
  obtain ⟨rest, htokens⟩ : ∃ rest, tokens line = device :: rest := by
    rw [List.head?_eq_some_iff] at hhead
    exact hhead
  have hedit : counterEdit s.timestamp s.isValid line =
      some ⟨device, setCounters s.timestamp device (tokens line)⟩ := by
    have haccept := acceptCounterRow_eq_some.2
      ⟨htokens, by simpa [htokens] using hlength, hvalid⟩
    rw [counterEdit, haccept, htokens]
    rfl
  have hedits : counterEdits s.timestamp s.isValid (before ++ line :: after) =
      counterEdits s.timestamp s.isValid before ++
        ⟨device, setCounters s.timestamp device (tokens line)⟩ ::
          counterEdits s.timestamp s.isValid after := by
    rw [counterEdits, List.filterMap_append, List.filterMap_cons, hedit]
    rfl
  -- no later edit is for the device, so what this one sets stays
  have hafter : device ∉ (counterEdits s.timestamp s.isValid after).map DiskEdit.device := by
    rw [mem_counterEdits_iff]
    rintro ⟨-, row, hmem, hof⟩
    exact hlast row hmem hof
  rw [(readCounters_sameStore _ s).disks, get?_applyEdits, hedits, if_pos (by simp),
    editsOf_append]
  exact ⟨_, congrArg some ((editsOf_cons_self _ _ _).trans (editsOf_of_not_mem hafter _))⟩

/-- A row adds the number of its columns that cannot be read to the defaults counted. -/
theorem count_defaulted_readCounterLine (hvalid : s.isValid device = true)
    (hrow : IsCounterRow line device) :
    (readCounterLine s line).diagnostics.count Source.counters EventKind.defaulted =
      s.diagnostics.count Source.counters EventKind.defaulted + unreadable line := by
  have hscope : isRowInScope s.isValid line = true := by
    simp [isRowInScope, hrow.1, hrow.2, hvalid]
  rw [readCounterLine_diagnostics, Diagnostics.count_recordAll,
    (amounts_counterLine s.isValid line).sum]
  have hlines : ¬ EventKind.lines = EventKind.defaulted := by decide
  have hskipped : ¬ EventKind.skipped = EventKind.defaulted := by decide
  simp [counterTallies, hscope, Tally.toward, hlines, hskipped]

/-- A numeral with one place and a value below `2 ^ 40` can be read in every column. -/
theorem isReadable_of_onePlace {columns : List Text} {column : Nat × Nat}
    (hcolumn : column ∈ counterColumns) {text : Text} (htext : columns[column.1]? = some text)
    {v : ℚ} (h : OnePlace text v) (hv : v < 2 ^ 40) : IsReadable columns column := by
  rw [← isSome_readColumn_iff, htext]
  obtain ⟨ms, htime, -⟩ := readColumn_thousand h hv
  simp only [counterColumns, List.mem_cons, List.not_mem_nil, or_false] at hcolumn
  rcases hcolumn with rfl | rfl | rfl | rfl | rfl
  · exact Option.isSome_of_eq_some (readColumn_one h hv)
  · exact Option.isSome_of_eq_some (readColumn_one h hv)
  · exact Option.isSome_of_eq_some (readColumn_kilo h hv)
  · exact Option.isSome_of_eq_some (readColumn_kilo h hv)
  · exact Option.isSome_of_eq_some htime

/-- Counts and bytes are those of the last row of the device.  Where a column has a number with one
place behind the point, they are exact but for the fraction that is cut off, and of the defaults
that the row adds none is for this column. -/
theorem readCounters_counts (before : List Text) (hvalid : s.isValid device = true)
    (hrow : IsCounterRow line device) (hlast : ∀ row ∈ after, ¬ IsCounterRow row device) :
    ∃ disk, (readCounters (before ++ line :: after) s).disks.get? device = some disk ∧
      ∀ text v, OnePlace text v → v < 2 ^ 40 →
        ((tokens line)[1]? = some text → disk.readsCount = ⌊v⌋) ∧
        ((tokens line)[2]? = some text → disk.writesCount = ⌊v⌋) ∧
        ((tokens line)[3]? = some text → disk.readBytes = ⌊1024 * v⌋) ∧
        ((tokens line)[4]? = some text → disk.writeBytes = ⌊1024 * v⌋) ∧
        ∀ column ∈ counterColumns, (tokens line)[column.1]? = some text →
          (readCounters (before ++ [line]) s).diagnostics.count Source.counters
              EventKind.defaulted =
            (readCounters before s).diagnostics.count Source.counters EventKind.defaulted +
              (counterColumns.erase column).countP fun other =>
                ¬ IsReadable (tokens line) other := by
  obtain ⟨earlier, hget⟩ := get?_readCounters before hvalid hrow hlast
  refine ⟨_, hget, fun text v h hv => ?_⟩
  refine ⟨fun htext => ?_, fun htext => ?_, fun htext => ?_, fun htext => ?_, ?_⟩
  · show (readColumn (tokens line)[1]? 1).getD 0 = ⌊v⌋
    rw [htext, readColumn_one h hv, Option.getD_some]
  · show (readColumn (tokens line)[2]? 1).getD 0 = ⌊v⌋
    rw [htext, readColumn_one h hv, Option.getD_some]
  · show (readColumn (tokens line)[3]? 1024).getD 0 = ⌊1024 * v⌋
    rw [htext, readColumn_kilo h hv, Option.getD_some]
  · show (readColumn (tokens line)[4]? 1024).getD 0 = ⌊1024 * v⌋
    rw [htext, readColumn_kilo h hv, Option.getD_some]
  · intro column hcolumn htext
    -- the column can be read, so it is not among those that are counted as defaulted
    have hscope : (readCounters before s).isValid device = true := by
      rw [(readCounters_sameStore before s).isValid]
      exact hvalid
    have hrun : readCounters (before ++ [line]) s = readCounterLine (readCounters before s) line :=
      List.foldl_append
    rw [hrun, count_defaulted_readCounterLine hscope hrow, unreadable, List.countP_erase, if_neg,
      Nat.sub_zero]
    rintro ⟨-, hunreadable⟩
    exact of_decide_eq_true hunreadable (isReadable_of_onePlace hcolumn htext h hv)

/-- A row with halves and a tenth, of a device that an earlier row has named. -/
theorem readCounters_counts_ada0 :
    let s : Session := { valid := ["ada0".toList] }
    let earlier := ["ada0 9 9 9 9 0 0 9".toList]
    let line := "ada0 10.5 20.0 30.5 0.1 0 0.1 x".toList
    s.isValid "ada0".toList = true ∧ IsCounterRow line "ada0".toList ∧
      OnePlace "30.5".toList 30.5 ∧ OnePlace "0.1".toList 0.1 ∧
      ∃ disk, (readCounters (earlier ++ [line]) s).disks.get? "ada0".toList = some disk ∧
        disk.readBytes = 31232 ∧ disk.writeBytes = 102 := by
  intro s earlier line
  have hvalid : s.isValid "ada0".toList = true := by decide
  have hrow : IsCounterRow line "ada0".toList := ⟨by decide, by decide⟩
  have hread : OnePlace "30.5".toList 30.5 := by
    refine ⟨"30".toList, '5', by decide, by decide, by decide, ?_⟩
    rw [show Nat.ofDigitChars 10 ("30".toList ++ ['5']) 0 = 305 by decide]
    norm_num
  have hwrite : OnePlace "0.1".toList 0.1 := by
    refine ⟨"0".toList, '1', by decide, by decide, by decide, ?_⟩
    rw [show Nat.ofDigitChars 10 ("0".toList ++ ['1']) 0 = 1 by decide]
    norm_num
  have hlast : ∀ row ∈ ([] : List Text), ¬ IsCounterRow row "ada0".toList := by simp
  obtain ⟨disk, hget, hcounts⟩ := readCounters_counts earlier hvalid hrow hlast
  have hreadBytes := (hcounts _ _ hread (by norm_num)).2.2.1 (by decide)
  have hwriteBytes := (hcounts _ _ hwrite (by norm_num)).2.2.2.1 (by decide)
  norm_num at hreadBytes hwriteBytes
  exact ⟨hvalid, hrow, hread, hwrite, disk, hget, hreadBytes, hwriteBytes⟩

/-- The time in milliseconds is that of the last row of the device.  Where the seconds are a number
with one place behind the point it is exact, but one millisecond is missing if they fall short. -/
theorem readCounters_busyTime (before : List Text) (hvalid : s.isValid device = true)
    (hrow : IsCounterRow line device) (hlast : ∀ row ∈ after, ¬ IsCounterRow row device)
    {text : Text} (htext : (tokens line)[7]? = some text) {v : ℚ} (h : OnePlace text v)
    (hv : v < 2 ^ 40) :
    ∃ disk, (readCounters (before ++ line :: after) s).disks.get? device = some disk ∧
      (FallsShort v → (disk.transferTimeMs : ℚ) = 1000 * v - 1) ∧
      (¬ FallsShort v → (disk.transferTimeMs : ℚ) = 1000 * v) := by
  obtain ⟨earlier, hget⟩ := get?_readCounters before hvalid hrow hlast
  obtain ⟨ms, hread, hshort, hexact⟩ := readColumn_thousand h hv
  have htime : (setCounters s.timestamp device (tokens line) earlier).transferTimeMs = ms := by
    show (readColumn (tokens line)[7]? 1000).getD 0 = ms
    rw [htext, hread, Option.getD_some]
  refine ⟨_, hget, ?_⟩
  rw [htime]
  exact ⟨hshort, hexact⟩

/-- From 32.3 seconds a millisecond is lost. -/
theorem readCounters_busyTime_ada0 :
    let s : Session := { valid := ["ada0".toList] }
    let line := "ada0 1.0 2.0 3.0 4.0 0 0.1 32.3".toList
    s.isValid "ada0".toList = true ∧ IsCounterRow line "ada0".toList ∧
      (tokens line)[7]? = some "32.3".toList ∧ OnePlace "32.3".toList 32.3 ∧ (32.3 : ℚ) < 2 ^ 40 ∧
      FallsShort 32.3 ∧
      ∃ disk, (readCounters [line] s).disks.get? "ada0".toList = some disk ∧
        disk.transferTimeMs = 32299 := by
  intro s line
  have hvalid : s.isValid "ada0".toList = true := by decide
  have hrow : IsCounterRow line "ada0".toList := ⟨by decide, by decide⟩
  have htext : (tokens line)[7]? = some "32.3".toList := by decide
  have hplace : OnePlace "32.3".toList 32.3 := by
    refine ⟨"32".toList, '3', by decide, by decide, by decide, ?_⟩
    rw [show Nat.ofDigitChars 10 ("32".toList ++ ['3']) 0 = 323 by decide]
    norm_num
  have hv : (32.3 : ℚ) < 2 ^ 40 := by norm_num
  have hshort : FallsShort 32.3 := ⟨5, by norm_num, by norm_num, by norm_num [Int.fract]⟩
  have hlast : ∀ row ∈ ([] : List Text), ¬ IsCounterRow row "ada0".toList := by simp
  obtain ⟨disk, hget, htime, -⟩ :=
    readCounters_busyTime [] hvalid hrow hlast htext hplace hv
  refine ⟨hvalid, hrow, htext, hplace, hv, hshort, disk, hget, ?_⟩
  have hms := htime hshort
  norm_num at hms
  exact_mod_cast hms

end StorageInventory.Pass
