import Mathlib.Tactic
import StorageInventory.Host.Reading
import StorageInventory.Proofs.Host.Walking
import StorageInventory.Proofs.Text.LineWords
import StorageInventory.Proofs.Text.Lines
import StorageInventory.Proofs.Text.Utf8
import StorageInventory.Provider

/-!
# What is read of raw output

Files and outputs of commands are bytes.  Their rows come back as lines, if there is no line
boundary in them, and their words come back wherever the lines are cut.

* `readRows` — the lines of a file and of an output, and when they are the rows,
* `listsDevices_tokens` — the devices of both providers are the words of what was read.
-/

namespace StorageInventory.Host

open Text

/-!
## Rows in files and outputs

Tools write one row to a line, and end it with a line feed.  Decoding gives their text again, and
replacing line ends changes nothing in it, but the lines are cut at every line boundary of Unicode.
So a row reaches its reader as one line exactly if there is no such character in it.

* `linesOfBytes_encode_unlines` — the lines of rows,
* `readRows` — the same for a file and for a command, and when they are the rows.
-/

/-- The lines of rows are the rows, cut at the line boundaries in them. -/
theorem linesOfBytes_encode_unlines {rows : List Text} (h : ∀ row ∈ rows, '\r' ∉ row) :
    linesOfBytes (Utf8.encode (unlines rows)) = rows.flatMap (List.splitOnP isLineBreak) := by
  rw [linesOfBytes, Utf8.decode_encode, unifyLineEnds_eq_self (not_mem_unlines h), lines_unlines h]

/-- Reading a file of rows, and running a command that prints them, gives the rows, cut at the line
boundaries in them.  These are the rows themselves exactly if there is no line boundary in any. -/
theorem readRows {rows : List Text} (hrows : ∀ row ∈ rows, '\n' ∉ row ∧ '\r' ∉ row) :
    (∀ read path, read path = .ok (Utf8.encode (unlines rows)) →
      readFileLines read path = .ofLines (rows.flatMap (List.splitOnP isLineBreak))) ∧
    (∀ run timeout words complaint,
      run words = .finished (Utf8.encode (unlines rows)) complaint 0 →
      runCommand run timeout words =
        .of (.ok (some (rows.flatMap (List.splitOnP isLineBreak)))) [.call { words, timeout }]) ∧
    (rows.flatMap (List.splitOnP isLineBreak) = rows ↔
      ∀ row ∈ rows, ∀ c ∈ row, isLineBreak c = false) := by
  have hlines := linesOfBytes_encode_unlines fun row hrow => (hrows row hrow).2
  refine ⟨fun read path hread => ?_, fun run timeout words complaint hrun => ?_,
    flatMap_splitOnP_eq_self_iff⟩
  · rw [readFileLines, hread, readLinesFrom, hlines]
  · rw [runCommand, hrun]
    dsimp only
    rw [if_neg (by simp), hlines]

/-- A form feed in a mount point cuts the row of the mount. -/
theorem readRows_formFeed :
    let rows := ["/dev/sda1 /mnt/a\x0cb ext4 rw 0 0".toList]
    let bytes := Utf8.encode (unlines rows)
    let pieces := ["/dev/sda1 /mnt/a".toList, "b ext4 rw 0 0".toList]
    (∀ row ∈ rows, '\n' ∉ row ∧ '\r' ∉ row) ∧
      readFileLines (fun _ => .ok bytes) "mounts".toList = .ofLines pieces ∧
      runCommand (fun _ => .finished bytes [] 0) 30 ["mount".toList] =
        .of (.ok (some pieces)) [.call ⟨["mount".toList], 30⟩] ∧
      pieces ≠ rows := by
  intro rows bytes pieces
  have hrows : ∀ row ∈ rows, '\n' ∉ row ∧ '\r' ∉ row := by decide
  have hpieces : rows.flatMap (List.splitOnP isLineBreak) = pieces := by decide
  obtain ⟨hfile, hcommand, hiff⟩ := readRows hrows
  rw [hpieces] at hfile hcommand hiff
  exact ⟨hrows, hfile _ _ rfl, hcommand _ _ _ _ rfl,
    fun heq => absurd (hiff.1 heq _ (List.mem_singleton_self _) '\x0c' (by decide)) (by decide)⟩

end StorageInventory.Host

namespace StorageInventory.Provider

open Text

/-!
## The device list

Both providers read the device list in the same way, the one from a file and the other from the
output of a command: the text is cut into lines, and the words of all lines are the devices.  The
lines make no difference to the words, so the devices are the words of the whole text.

* `wordsOfLines_linesOfBytes` — the words of the lines of some bytes,
* `ListsDevices` — what both providers find in a device list,
* `listsDevices_tokens` — they find the words of its text, on whichever lines these stand.
-/

/-- The words of all lines are the words of the text. -/
theorem wordsOfLines_linesOfBytes (bytes : List UInt8) :
    wordsOfLines (Host.linesOfBytes bytes) = tokens (Utf8.decode bytes) := by
  rw [wordsOfLines, Host.linesOfBytes, flatMap_tokens_lines, tokens_unifyLineEnds]

/-- Lines that an answer gives can be changed in the answer. -/
theorem run_mapLines_ofLines {change : List Text → List Text} {answer : Answer} {before : Journal}
    {lines : List Text} {entries : Journal}
    (h : answer.run before = (.ok (some lines), entries)) :
    (mapLines change answer).run before = (.ok (some (change lines)), entries) := by
  rw [mapLines, map_eq_pure_bind, Telling.run_bind, h]
  simp

/-- The providers find these devices if the device list has these bytes: the one that reads it from
a capture, wherever it is and whatever was told before, and the one that runs the command. -/
structure ListsDevices (bytes : List UInt8) (devices : List Text) : Prop where
  captured : ∀ (files : Telling Host.Tree) (directory : Text) (before entries : Journal)
    (tree : Host.Tree), files.run before = (.ok tree, entries) →
    tree.read (Host.Path.join directory devicesFile) = .ok bytes →
    (Provider.captured files directory).devices.run before = (.ok (some devices), entries)
  live : ∀ (run : List Text → Host.CommandResult) (timeout : Int) (complaint : Text),
    run devicesCommand = .finished bytes complaint 0 → ∀ before : Journal,
    (Provider.live run timeout).devices.run before =
      (.ok (some devices), [.call ⟨devicesCommand, timeout⟩])

/-- The providers find the words of the lines. -/
theorem listsDevices_wordsOfLines (bytes : List UInt8) :
    ListsDevices bytes (wordsOfLines (Host.linesOfBytes bytes)) where
  captured files directory before entries tree hfiles hread := by
    refine run_mapLines_ofLines ?_
    rw [Telling.run_bind, hfiles]
    dsimp only
    rw [Host.readFileLines, hread, Host.readLinesFrom]
    exact congrArg (Prod.mk _) (List.append_nil entries)
  live run timeout complaint hrun before := by
    refine run_mapLines_ofLines ?_
    rw [Host.runCommand, hrun]
    rfl

/-- The devices are the words of the text of the list, in their order and as often as they stand
there.  Each is a word indeed, and the same words on other lines are the same devices. -/
theorem listsDevices_tokens (bytes : List UInt8) :
    ListsDevices bytes (tokens (Utf8.decode bytes)) ∧
    (∀ device ∈ tokens (Utf8.decode bytes), device ≠ [] ∧ ∀ c ∈ device, isBlank c = false) ∧
    ∀ rows : List Text, rows.flatMap tokens = tokens (Utf8.decode bytes) →
      ListsDevices (Utf8.encode (unlines rows)) (tokens (Utf8.decode bytes)) := by
  have hlists : ∀ bytes, ListsDevices bytes (tokens (Utf8.decode bytes)) := fun bytes =>
    wordsOfLines_linesOfBytes bytes ▸ listsDevices_wordsOfLines bytes
  refine ⟨hlists bytes, fun device hdevice => mem_tokens hdevice, fun rows hrows => ?_⟩
  have hrowsList := hlists (Utf8.encode (unlines rows))
  rwa [Utf8.decode_encode, tokens_unlines, hrows] at hrowsList

/-- A tree with a file in it gives the bytes of the file. -/
theorem read_devicesFile (bytes : List UInt8) :
    ({ nodes := [([devicesFile], .file bytes)] } : Host.Tree).read
      (Host.Path.join ['/'] devicesFile) = .ok bytes := by
  have hleads : ({ nodes := [([devicesFile], .file bytes)] } : Host.Tree).LeadsTo ['/'] [] :=
    ⟨Host.Tree.walk.eq_1 .., rfl⟩
  have hname : Host.Tree.IsEntryName devicesFile :=
    ⟨by decide, by decide, by decide, by decide⟩
  have hfits : Host.Tree.Fits ['/'] devicesFile := ⟨by decide, by decide, by decide⟩
  rw [hleads.read_of_file hname hfits rfl]
  exact congrArg _ (List.append_nil bytes)

/-- A device list with three kinds of line ends, an empty line and a repeated name. -/
theorem listsDevices_tokens_ada0 :
    let bytes := Utf8.encode "ada0 da0\r\n\x0cada0\n\n".toList
    let devices := ["ada0".toList, "da0".toList, "ada0".toList]
    let tree : Host.Tree := { nodes := [([devicesFile], .file bytes)] }
    (captured (pure tree) ['/']).devices.run [] = (.ok (some devices), []) ∧
      (live (fun _ => .finished bytes [] 0) 30).devices.run [] =
        (.ok (some devices), [.call ⟨devicesCommand, 30⟩]) ∧
      ListsDevices (Utf8.encode (unlines ["ada0".toList, [], "da0\tada0".toList])) devices := by
  intro bytes devices tree
  have hdevices : tokens (Utf8.decode bytes) = devices := by
    rw [Utf8.decode_encode]
    decide
  have hrows : ["ada0".toList, [], "da0\tada0".toList].flatMap tokens = devices := by decide
  obtain ⟨hlists, -, hregrouped⟩ := listsDevices_tokens bytes
  rw [hdevices] at hlists hregrouped
  exact ⟨hlists.captured (pure tree) ['/'] [] [] tree rfl (read_devicesFile bytes),
    hlists.live (fun _ => .finished bytes [] 0) 30 [] rfl [], hregrouped _ hrows⟩

end StorageInventory.Provider
