import Mathlib.Tactic
import StorageInventory.Proofs.Collection.Agreement
import StorageInventory.Proofs.Host.Walking
import StorageInventory.Provider

/-!
# Replaying a capture

A capture keeps the outputs of the commands that succeeded, each in its own file, and nothing of the
others.  Collecting from it comes to the same as collecting where the commands are run: a file is
read as the output that it keeps, and a file that is not there gives no lines, as a command does
that failed, however it failed.

* `IsCapture` — the directory at a path is a capture of what commands gave,
* `IsCapture.sameLines` — the provider of a capture gives the lines of the provider that runs the
  commands,
* `collect_captured` — collecting from a capture,
* `captureOf` — a capture of given commands.
-/

namespace StorageInventory

open Host Pass Provider

/-! ## What is kept -/

/-- The output of a command that succeeded. -/
def Host.CommandResult.output? : CommandResult → Option (List UInt8)
  | .finished output _ status => if status = 0 then some output else none
  | _ => none

/-- The lines that a result gives: those of the output, or none. -/
def Host.CommandResult.lines (result : CommandResult) : List Text :=
  (result.output?.map linesOfBytes).getD []

/-- The lines of a command are those of its output; however it fails, there are none. -/
theorem Host.findingLines_runCommand (run : List Text → CommandResult) (timeout : Int)
    (words : List Text) (before : Journal) :
    findingLines ((runCommand run timeout words).run before).1 = (run words).lines := by
  rw [runCommand, CommandResult.lines]
  rcases run words with ⟨output, complaint, status⟩ | _ | _ | fault | fault
  · by_cases h : status = 0
    · simp only [h, ne_eq, not_true, if_false, CommandResult.output?, if_true]
      rfl
    · simp only [h, ne_eq, not_false_eq_true, if_true, CommandResult.output?, if_false]
      rfl
  · rfl
  · rfl
  · rfl
  · rfl

/-- The directory at a path and a place keeps the output of a command that succeeded under a name,
and nothing under that name if it failed. -/
structure Host.Tree.Keeps (tree : Tree) (directory : Text) (place : List Text) (name : Text)
    (result : CommandResult) : Prop where
  node : tree.node? (place ++ [name]) = result.output?.map .file
  untouched : tree.added (place ++ [name]) = []
  fits : result.output? ≠ none → Tree.Fits directory name

/-- The names of the listings in a capture, and the commands that they keep. -/
def listingFiles : List (Text × List Text) :=
  [(devicesFile, devicesCommand), (mountsFile, mountsCommand), (countersFile, countersCommand),
    (diskGeometryFile, diskGeometryCommand), (partitionGeometryFile, partitionGeometryCommand)]

/-- The directory at the path, which is at the place, is a capture of what the commands gave: it has
the outputs of the listings, and in a directory of their own those of the lookups. -/
structure IsCapture (run : List Text → CommandResult) (tree : Tree) (directory : Text)
    (place : List Text) : Prop where
  leadsTo : tree.LeadsTo directory place
  listing : ∀ entry ∈ listingFiles, tree.Keeps directory place entry.1 (run entry.2)
  lookups : tree.node? (place ++ [minorDirectory]) = some .directory ∨
    tree.node? (place ++ [minorDirectory]) = none
  lookup : ∀ name, isPartitionName name = true →
    tree.Keeps (Path.join directory minorDirectory) (place ++ [minorDirectory]) (minorFile name)
      (run (minorCommand name))

/-! ## What is read -/

namespace Host.Tree

variable {tree : Tree} {directory : Text} {place : List Text}

/-- A file that can be read gives its lines. -/
theorem findingLines_readFileLines_ok {path : Text} {bytes : List UInt8}
    (h : tree.read path = .ok bytes) (before : Journal) :
    findingLines ((readFileLines tree.read path).run before).1 = linesOfBytes bytes := by
  rw [readFileLines, h]
  rfl

/-- A file that cannot be read gives no lines, whatever the fault is. -/
theorem findingLines_readFileLines_error {path : Text} {fault : Fault}
    (h : tree.read path = .error fault) (before : Journal) :
    findingLines ((readFileLines tree.read path).run before).1 = [] := by
  rw [readFileLines, h, readLinesFrom]
  split_ifs
  · rfl
  · rfl

/-- The file that keeps the output of a command gives the lines of the command. -/
theorem Keeps.findingLines {name : Text} {result : CommandResult}
    (h : tree.Keeps directory place name result) (hleads : tree.LeadsTo directory place)
    (hname : IsEntryName name) (before : Journal) :
    findingLines ((readFileLines tree.read (Path.join directory name)).run before).1 =
      result.lines := by
  rw [CommandResult.lines]
  cases houtput : result.output? with
  | none =>
    have hnode : tree.node? (place ++ [name]) = none := by
      rw [h.node, houtput]
      rfl
    obtain ⟨fault, hread⟩ := hleads.read_of_missing hname hnode
      (Path.isAbsolute_of_not_mem hname.noSlash)
      (Path.components_of_not_mem hname.noSlash hname.ne_nil)
    exact findingLines_readFileLines_error hread before
  | some output =>
    have hnode : tree.node? (place ++ [name]) = some (.file output) := by
      rw [h.node, houtput]
      rfl
    have hread := hleads.read_of_file hname (h.fits (by simp [houtput])) hnode
    rw [h.untouched, List.append_nil] at hread
    exact findingLines_readFileLines_ok hread before

end Host.Tree

/-- What ends as the file of a lookup does is no name with a meaning of its own. -/
theorem isEntryName_minorFile {name : Text} (h : isPartitionName name = true) :
    Tree.IsEntryName (minorFile name) := by
  have hslash : '/' ∉ name := by
    rw [isPartitionName, Bool.and_eq_true] at h
    simpa using h.2
  have hlength : 3 < (minorFile name).length := by
    rw [minorFile, List.length_append]
    have hsuffix : (".txt".toList : Text).length = 4 := by decide
    omega
  refine ⟨?_, ?_, ?_, ?_⟩
  · rintro hnil
    rw [hnil] at hlength
    simp at hlength
  · rintro hhere
    rw [hhere] at hlength
    simp [here] at hlength
  · rintro habove
    rw [habove] at hlength
    simp [above] at hlength
  · rw [minorFile, List.mem_append, not_or]
    exact ⟨hslash, by decide⟩

/-- The files of the listings have names that a directory can hold. -/
theorem isEntryName_of_mem_listingFiles {entry : Text × List Text} (h : entry ∈ listingFiles) :
    Tree.IsEntryName entry.1 := by
  rw [listingFiles] at h
  simp only [List.mem_cons, List.not_mem_nil, or_false] at h
  rcases h with rfl | rfl | rfl | rfl | rfl
  all_goals exact ⟨by decide, by decide, by decide, by decide⟩

/-- So has the directory of the lookups. -/
theorem isEntryName_minorDirectory : Tree.IsEntryName minorDirectory :=
  ⟨by decide, by decide, by decide, by decide⟩

namespace IsCapture

variable {run : List Text → CommandResult} {tree : Tree} {directory : Text} {place : List Text}

/-- A listing of a capture has the lines of its command. -/
theorem listing_lines (h : IsCapture run tree directory place) {entry : Text × List Text}
    (hentry : entry ∈ listingFiles) (before : Journal) :
    findingLines ((readFileLines tree.read (Path.join directory entry.1)).run before).1 =
      (run entry.2).lines :=
  (h.listing entry hentry).findingLines h.leadsTo (isEntryName_of_mem_listingFiles hentry) before

/-- The file of a lookup has the lines of its command; without any such files it has none. -/
theorem lookup_lines (h : IsCapture run tree directory place) {name : Text}
    (hname : isPartitionName name = true) (before : Journal) :
    findingLines ((readFileLines tree.read
        (Path.join directory (Path.join minorDirectory (minorFile name)))).run before).1 =
      (run (minorCommand name)).lines := by
  have hentry := isEntryName_minorFile hname
  have hdirectory := isEntryName_minorDirectory
  have hrelative := Path.isAbsolute_of_not_mem hentry.noSlash
  have hrelative' := Path.isAbsolute_of_not_mem hdirectory.noSlash
  have hlast : minorDirectory.getLast? ≠ some '/' := by decide
  rcases h.lookups with hnode | hnode
  · have hleads := h.leadsTo.enter hdirectory (by decide) hnode
    rw [← Path.join_assoc directory hrelative' hdirectory.ne_nil hlast hrelative]
    exact (h.lookup name hname).findingLines hleads hentry before
  · -- what is not there has nothing below it, so the lookup has failed
    have hkept := (h.lookup name hname).node
    rw [Tree.node?_append_of_none hnode, eq_comm, Option.map_eq_none_iff] at hkept
    have hcomponents : Path.components (Path.join minorDirectory (minorFile name)) =
        [minorDirectory, minorFile name] := by
      have hpieces : Path.pieces minorDirectory = [minorDirectory] := by decide
      rw [Path.components_join minorDirectory hrelative hentry.ne_nil, hpieces,
        Path.components_of_not_mem hentry.noSlash hentry.ne_nil]
      rfl
    have habsolute : Path.isAbsolute (Path.join minorDirectory (minorFile name)) = false := by
      rw [Path.isAbsolute_join minorDirectory hrelative, hrelative']
    obtain ⟨fault, hread⟩ := h.leadsTo.read_of_missing hdirectory hnode habsolute hcomponents
    rw [CommandResult.lines, hkept]
    exact Tree.findingLines_readFileLines_error hread before

end IsCapture

/-! ## The same lines -/

/-- Changing the lines of an answer changes the lines that it gives, if no lines stay no lines. -/
theorem findingLines_mapLines {change : List Text → List Text} (hnil : change [] = [])
    (answer : Answer) (before : Journal) :
    findingLines ((mapLines change answer).run before).1 =
      change (findingLines (answer.run before).1) := by
  rw [mapLines, map_eq_pure_bind, Telling.run_bind]
  rcases answer.run before with ⟨fault | _ | lines, entries⟩
  · exact hnil.symm
  · exact hnil.symm
  · rfl

/-- Answers with the same lines still have them when both are changed alike. -/
theorem Answer.SameLines.mapLines {a b : Answer} (h : a.SameLines b)
    {change : List Text → List Text} (hnil : change [] = []) :
    (Provider.mapLines change a).SameLines (Provider.mapLines change b) := by
  intro before before'
  rw [findingLines_mapLines hnil, findingLines_mapLines hnil, h before before']

/-- Only names that can be looked up are looked up at all. -/
theorem Answer.SameLines.checkedLookup {lookup lookup' : Text → Answer} {name : Text}
    (h : isPartitionName name = true → (lookup name).SameLines (lookup' name)) :
    (Provider.checkedLookup lookup name).SameLines (Provider.checkedLookup lookup' name) := by
  rw [Provider.checkedLookup, Provider.checkedLookup, checkPartitionName]
  split_ifs with hname
  · exact h hname
  · exact fun _ _ => rfl

namespace IsCapture

variable {run : List Text → CommandResult} {tree : Tree} {directory : Text} {place : List Text}

/-- The provider of a capture gives the lines of the provider that runs the commands. -/
theorem sameLines (h : IsCapture run tree directory place) (timeout : Int) :
    (captured (pure tree) directory).SameLines (live run timeout) := by
  have hask : ∀ file command, (∀ before,
      findingLines ((readFileLines tree.read (Path.join directory file)).run before).1 =
        (run command).lines) →
      Answer.SameLines
        (do readFileLines (← (pure tree : Telling Tree)).read (Path.join directory file))
        (runCommand run timeout command) := by
    intro file command hlines before before'
    rw [pure_bind, hlines, findingLines_runCommand]
  have hlisting : ∀ entry ∈ listingFiles, Answer.SameLines
      (do readFileLines (← (pure tree : Telling Tree)).read (Path.join directory entry.1))
      (runCommand run timeout entry.2) := fun entry hentry =>
    hask entry.1 entry.2 (h.listing_lines hentry)
  refine ⟨?_, ?_, ?_, ?_, ?_, ?_⟩
  · exact (hlisting (devicesFile, devicesCommand) (by simp [listingFiles])).mapLines rfl
  · exact hlisting (mountsFile, mountsCommand) (by simp [listingFiles])
  · exact hlisting (countersFile, countersCommand) (by simp [listingFiles])
  · exact hlisting (diskGeometryFile, diskGeometryCommand) (by simp [listingFiles])
  · exact hlisting (partitionGeometryFile, partitionGeometryCommand) (by simp [listingFiles])
  · intro name
    exact Answer.SameLines.checkedLookup fun hname =>
      hask (Path.join minorDirectory (minorFile name)) (minorCommand name) (h.lookup_lines hname)

end IsCapture

/-! ## A capture of given commands -/

/-- Where a capture at the root has its files, and the commands that they keep, if the lookups that
succeeded are among those of the names. -/
def captureEntries (names : List Text) : List (List Text × List Text) :=
  (listingFiles.map fun entry => ([entry.1], entry.2)) ++
    names.map fun name => ([minorDirectory, minorFile name], minorCommand name)

/-- The capture of commands at the root. -/
def captureOf (run : List Text → CommandResult) (names : List Text) : Tree where
  nodes := (captureEntries names).filterMap fun entry =>
    (run entry.2).output?.map fun output => (entry.1, .file output)

section

variable {run : List Text → CommandResult} {names : List Text} {place : List Text}

/-- A capture has the files of the listings, and one for each name that is looked up. -/
theorem mem_captureEntries {entry : List Text × List Text} :
    entry ∈ captureEntries names ↔
      (∃ file command, (file, command) ∈ listingFiles ∧ ([file], command) = entry) ∨
        ∃ name ∈ names, ([minorDirectory, minorFile name], minorCommand name) = entry := by
  rw [captureEntries, List.mem_append, List.mem_map, List.mem_map]
  simp only [Prod.exists]

/-- The nodes of a capture are files with the outputs of the commands that gave one. -/
theorem mem_nodes_captureOf {node : Node} :
    (place, node) ∈ (captureOf run names).nodes ↔
      ∃ command, (place, command) ∈ captureEntries names ∧
        ∃ output, (run command).output? = some output ∧ node = .file output := by
  rw [captureOf, List.mem_filterMap]
  constructor
  · rintro ⟨⟨path, command⟩, hentry, hnode⟩
    obtain ⟨output, houtput, heq⟩ := Option.map_eq_some_iff.1 hnode
    obtain ⟨rfl, rfl⟩ := Prod.mk.inj heq
    exact ⟨command, hentry, output, houtput, rfl⟩
  · rintro ⟨command, hentry, output, houtput, rfl⟩
    exact ⟨(place, command), hentry, by rw [houtput]; rfl⟩

/-- Nothing is filed at a place that no entry has. -/
theorem lookup_captureOf_eq_none (h : ∀ entry ∈ captureEntries names, entry.1 ≠ place) :
    (captureOf run names).nodes.lookup place = none := by
  rw [List.lookup_eq_none_iff]
  rintro ⟨path, node⟩ hnode
  obtain ⟨command, hentry, -⟩ := mem_nodes_captureOf.1 hnode
  rw [bne_iff_ne]
  exact (h (path, command) hentry).symm

/-- Nothing is where no command that succeeded has its file, at the place or below it. -/
theorem node?_captureOf_of_failed (hne : place ≠ [])
    (h : ∀ entry ∈ captureEntries names, place <+: entry.1 → (run entry.2).output? = none) :
    (captureOf run names).node? place = none := by
  rw [Tree.node?_eq_none_iff]
  refine ⟨hne, ?_⟩
  rintro ⟨path, node⟩ hnode hbelow
  obtain ⟨command, hentry, output, houtput, -⟩ := mem_nodes_captureOf.1 hnode
  rw [h (path, command) hentry hbelow] at houtput
  simp at houtput

/-- Where one command alone has its file, the capture keeps its output. -/
theorem node?_captureOf {command : List Text} (hne : place ≠ [])
    (hentry : (place, command) ∈ captureEntries names)
    (hsingle : ∀ entry ∈ captureEntries names, place <+: entry.1 → entry = (place, command)) :
    (captureOf run names).node? place = (run command).output?.map .file := by
  cases houtput : (run command).output? with
  | none =>
    refine node?_captureOf_of_failed hne fun entry hmem hprefix => ?_
    rw [hsingle entry hmem hprefix, houtput]
  | some output =>
    have hmem : (place, Node.file output) ∈ (captureOf run names).nodes :=
      mem_nodes_captureOf.2 ⟨command, hentry, output, houtput, rfl⟩
    cases hlookup : (captureOf run names).nodes.lookup place with
    | none =>
      rw [List.lookup_eq_none_iff] at hlookup
      simpa using hlookup _ hmem
    | some node =>
      obtain ⟨before, after, hnodes, -⟩ := List.lookup_eq_some_iff.1 hlookup
      have hnode : (place, node) ∈ (captureOf run names).nodes := by
        rw [hnodes]
        simp
      -- the node at the place comes from an entry there, and there is only one
      obtain ⟨other, hother, found, hfound, rfl⟩ := mem_nodes_captureOf.1 hnode
      obtain ⟨-, rfl⟩ := Prod.mk.inj (hsingle (place, other) hother (List.prefix_refl _))
      rw [hfound, Option.some.injEq] at houtput
      rw [Tree.node?, hlookup, houtput]
      rfl

/-- Different names have different files. -/
theorem minorFile_injective {name other : Text} (h : minorFile name = minorFile other) :
    name = other := List.append_cancel_right h

/-- Each listing has a file of its own, in front of no other. -/
theorem listing_single {file : Text} {command : List Text}
    (hlisting : (file, command) ∈ listingFiles) :
    ∀ entry ∈ captureEntries names, [file] <+: entry.1 → entry = ([file], command) := by
  intro entry hentry hprefix
  rcases mem_captureEntries.1 hentry with ⟨other, command', hother, rfl⟩ | ⟨name, -, rfl⟩
  · have hsame : ∀ a ∈ listingFiles, ∀ b ∈ listingFiles, a.1 = b.1 → a = b := by decide
    have hfile : file = other := by simpa using hprefix
    obtain ⟨rfl, rfl⟩ := Prod.mk.inj (hsame _ hlisting _ hother hfile)
    rfl
  · have hapart : ∀ a ∈ listingFiles, a.1 ≠ minorDirectory := by decide
    have hfile : file = minorDirectory := (List.cons_prefix_cons.1 hprefix).1
    exact absurd hfile (hapart _ hlisting)

/-- So has each lookup. -/
theorem lookup_single {name : Text} {entry : List Text × List Text}
    (hentry : entry ∈ captureEntries names)
    (hfront : [minorDirectory, minorFile name] <+: entry.1) :
    name ∈ names ∧ entry = ([minorDirectory, minorFile name], minorCommand name) := by
  rcases mem_captureEntries.1 hentry with ⟨file, command, -, rfl⟩ | ⟨other, hother, rfl⟩
  · have hlength := hfront.length_le
    simp at hlength
  · have hfile : minorFile name = minorFile other := by simpa using hfront
    obtain rfl := minorFile_injective hfile
    exact ⟨hother, rfl⟩

/-- Whatever commands give, they have a capture, if the lookups that succeed are among those of some
names, for which a file can exist. -/
theorem isCapture_captureOf
    (hnames : ∀ name, isPartitionName name = true → (run (minorCommand name)).output? ≠ none →
      name ∈ names ∧ Tree.Fits (Path.join ['/'] minorDirectory) (minorFile name)) :
    IsCapture run (captureOf run names) ['/'] [] := by
  have hroot : (captureOf run names).node? [] = some .directory := by
    have hlookup : (captureOf run names).nodes.lookup [] = none := by
      refine lookup_captureOf_eq_none fun entry hentry => ?_
      rcases mem_captureEntries.1 hentry with ⟨_, _, -, rfl⟩ | ⟨_, -, rfl⟩
      · simp
      · simp
    rw [Tree.node?, hlookup]
    rfl
  refine ⟨⟨Tree.walk.eq_1 .., hroot⟩, ?_, ?_, ?_⟩
  · rintro ⟨file, command⟩ hlisting
    refine ⟨?_, rfl, fun _ => ?_⟩
    · exact node?_captureOf (by simp) (mem_captureEntries.2 (.inl ⟨file, command, hlisting, rfl⟩))
        (listing_single hlisting)
    · have hfits : ∀ entry ∈ listingFiles, '\x00' ∉ Path.join ['/'] entry.1 ∧
          (Text.Utf8.encode (Path.join ['/'] entry.1)).length ≤ Tree.pathLimit ∧
          (Text.Utf8.encode entry.1).length ≤ Tree.componentLimit := by decide
      obtain ⟨hnul, hpath, hcomponent⟩ := hfits _ hlisting
      exact ⟨hnul, hpath, hcomponent⟩
  · -- the directory is there for the sake of the files in it only
    have hlookup : (captureOf run names).nodes.lookup [minorDirectory] = none := by
      refine lookup_captureOf_eq_none fun entry hentry => ?_
      rcases mem_captureEntries.1 hentry with ⟨file, command, hlisting, rfl⟩ | ⟨_, -, rfl⟩
      · have hapart : ∀ a ∈ listingFiles, [a.1] ≠ [minorDirectory] := by decide
        exact hapart _ hlisting
      · simp
    rw [List.nil_append, Tree.node?, hlookup]
    exact ite_eq_or_eq _ _ _
  · intro name hname
    refine ⟨?_, rfl, fun houtput => (hnames name hname houtput).2⟩
    rw [List.nil_append, List.singleton_append]
    by_cases hmem : name ∈ names
    · exact node?_captureOf (by simp) (mem_captureEntries.2 (.inr ⟨name, hmem, rfl⟩))
        fun entry hentry hprefix => (lookup_single hentry hprefix).2
    · have hfailed : (run (minorCommand name)).output? = none := by
        by_contra houtput
        exact hmem (hnames name hname houtput).1
      rw [hfailed]
      exact node?_captureOf_of_failed (by simp) fun entry hentry hprefix =>
        absurd (lookup_single hentry hprefix).1 hmem

end

/-! ## Collecting -/

/-- Whatever the commands gave, and however those failed that did, collecting from their capture
comes to the same as collecting where they are run: the same disks and the same counts, or the same
fault. -/
theorem collect_captured {run : List Text → CommandResult} {tree : Tree} {directory : Text}
    {place : List Text} (h : IsCapture run tree directory place) (rule : NamingRule)
    (timeout timestamp : Int) :
    (collect (captured (pure tree) directory) rule timestamp).2 =
      (collect (live run timeout) rule timestamp).2 :=
  (h.sameLines timeout).collect_eq rule timestamp

/-- A host some of whose commands fail, and the capture of what they gave. -/
theorem collect_captured_ada0 :
    let run : List Text → CommandResult := fun words =>
      if words = devicesCommand then .finished (Text.Utf8.encode "ada0\n".toList) [] 0
      else if words = mountsCommand then .timedOut
      else if words = countersCommand then .finished [0xFF] [] 1
      else if words = partitionGeometryCommand then
        .finished (Text.Utf8.encode "Geom name: ada0\r\n1. Name: ada0p1\r\n".toList ++ [0xC3]) [] 0
      else if words = minorCommand "ada0p1".toList then
        .finished (Text.Utf8.encode "110\n".toList) [] 0
      else .missing
    let tree := captureOf run ["ada0p1".toList]
    IsCapture run tree ['/'] [] ∧
      (collect (captured (pure tree) ['/']) geometryRule 7).2 =
        (collect (live run 30) geometryRule 7).2 ∧
      (collect (live run 30) geometryRule 7).2.toOption.map (fun snapshot =>
        snapshot.disks.map fun disk => disk.partitions.map Partition.minorNumber) =
          some [[110]] := by
  intro run tree
  have hcapture : IsCapture run tree ['/'] [] := by
    refine isCapture_captureOf fun name _ houtput => ?_
    have hname : name = "ada0p1".toList := by
      by_contra hne
      have hcommand : minorCommand name ≠ minorCommand "ada0p1".toList := by
        simpa [minorCommand] using hne
      have hrun : run (minorCommand name) = .missing := by
        simp only [run]
        rw [if_neg, if_neg, if_neg, if_neg, if_neg hcommand]
        all_goals
          simp [minorCommand, devicesCommand, mountsCommand, countersCommand,
            partitionGeometryCommand]
      rw [hrun] at houtput
      exact houtput rfl
    subst hname
    exact ⟨by simp, by decide, by decide, by decide⟩
  exact ⟨hcapture, collect_captured hcapture geometryRule 30 7, rfl⟩

end StorageInventory
