import Mathlib.Tactic
import StorageInventory.Proofs.CommandLine.Documents
import StorageInventory.Proofs.Host.Walking

/-!
# How a run ends

A run reports a configuration that it cannot load.  One that it can load it does not look at again
before it is used: for the log, for the document, and for the layout of the document.  If all that
is used then can be used, the run writes one document.  Otherwise it fails, without a document and
without a report.

Two settings can name the standard output streams by their numbers.  The stream of the document must
not be closed in this way.  The stream of the messages may be, unless something is told after it
that was to be shown and is held back until the end.

* `Invocation.IsReady` — all that an invocation uses can be used,
* `Invocation.run_isAnswer`, `Invocation.run_isFailure` — a run with the log set up,
* `start_ends` — every run of an invocation, with any loader of configurations.
-/

namespace StorageInventory.CommandLine

open Settings (Configuration Value)

/-! ## Answers, reports and failures -/

/-- The run writes one document, laid out as configured, and ends with the code 0.  Where its
subject is nothing, it writes the document that says so, in the configured language, and ends with
the code 2. -/
def Outcome.IsAnswer (o : Outcome) (host : Host) (c : Configuration) (subject : Subject) : Prop :=
  ∃ content l, layout host.widestIndent c = .ok l ∧ o.output = Json.toText l content ++ ['\n'] ∧
    ((o.ending = .done ∧ o.exitCode = 0 ∧ subject ≠ .nothing) ∨
      (o.ending = .unsupported ∧ o.exitCode = 2 ∧ subject = .nothing ∧
        ∃ message, Inventory.unsupportedMessage (translation host c) host.platform = .ok message ∧
          content = Inventory.unsupported host.platform message))

/-- The run says what is wrong with the configuration, and ends with the code 1. -/
def Outcome.IsReport (o : Outcome) (fault : Fault) : Prop :=
  o.ending = .misconfigured ∧ o.exitCode = 1 ∧ o.output = [] ∧
    o.messages = Text.unlines [configurationMessage fault]

/-- The run fails and writes nothing, or ends with the code of a run that could not write all that
was held back. -/
def Outcome.IsFailure (o : Outcome) : Prop :=
  (∃ fault, o.ending = .failed fault ∧ o.output = []) ∨ o.exitCode = cutCode

/-! ## What a run uses -/

/-- The host with its files as they are while the log is written. -/
def logged (host : Host) (c : Configuration) (sink : Log.Sink) : Host :=
  { host with follow := Log.Sink.follow { sink with language := translation host c } host.now }

/-- What comes of the document of an invocation, and what is told on the way. -/
def Invocation.told (invocation : Invocation) (host : Host) (c : Configuration) (sink : Log.Sink) :
    Except Fault Document × Journal :=
  ((invocation.document (logged host c sink) c (translation host c)).inLanguage
    (translation host c)).run []

/-- One of the files that are read as they are open is the stream of the number. -/
def Invocation.ClosesStream (invocation : Invocation) (host : Host) (c : Configuration) (n : Int) :
    Prop :=
  ∃ place ∈ (invocation.subject host.platform c).files c, Host.Closes host.opened place n

/-- With the log set up, all that an invocation uses can be used. -/
@[mk_iff]
structure Invocation.IsReadyWith (invocation : Invocation) (host : Host) (c : Configuration)
    (sink : Log.Sink) : Prop where
  subject : (invocation.subject host.platform c).IsReady (logged host c sink) c (translation host c)
  indent : CanIndent host.widestIndent c
  /-- The document can be written. -/
  output : ¬ invocation.ClosesStream host c Host.outputNumber
  /-- Nothing that is held back for the messages is lost. -/
  messages : host.isBuffered = true → invocation.ClosesStream host c Host.errorNumber →
    sink.loses (invocation.told host c sink).2 = false

/-- The host once the log is set up, with the log file and its directories. -/
def Invocation.prepared (invocation : Invocation) (host : Host) (c : Configuration) : Host :=
  { host with
    tree := (Log.Sink.ofConfiguration c invocation.options.isVerbose host.tree).1 }

/-- All that an invocation uses of its configuration, and of the host, can be used. -/
structure Invocation.IsReady (invocation : Invocation) (host : Host) (c : Configuration) :
    Prop where
  log : Log.IsReady c invocation.options.isVerbose host.tree
  rest : ∀ sink, (Log.Sink.ofConfiguration c invocation.options.isVerbose host.tree).2 = .ok sink →
    invocation.IsReadyWith (invocation.prepared host c) c sink

/-! ## Runs with the log set up -/

/-- Nothing is lost as long as the messages can be written. -/
theorem loses_eq_false {sink : Log.Sink} {journal : Journal}
    (h : journal.closes Host.errorNumber = false) : sink.loses journal = false := by
  have hnone : journal.since Host.errorNumber = [] := by
    rw [Journal.since, List.dropWhile_eq_nil_iff]
    intro entry hentry
    simpa using List.any_eq_false.1 h entry hentry
  rw [Log.Sink.loses, hnone]
  rfl

section

variable {host : Host} {c : Configuration} {invocation : Invocation} {sink : Log.Sink}

/-- The document can be made exactly if the subject has what it needs. -/
theorem Invocation.told_isOk_iff : (invocation.told host c sink).1.isOk = true ↔
    (invocation.subject host.platform c).IsReady (logged host c sink) c (translation host c) :=
  document_isOk_iff

/-- Once it is made, the streams are closed that the files are. -/
theorem Invocation.closes_told_iff (hok : (invocation.told host c sink).1.isOk = true) (n : Int) :
    (invocation.told host c sink).2.closes n = true ↔ invocation.ClosesStream host c n :=
  document_closes_iff hok n

/-- The ending and the text of a run that has its document. -/
def printed (host : Host) (c : Configuration) (made : Except Fault Document) :
    Except Fault (Ending × Text) := do
  let document ← made
  let text ← print host.widestIndent c document
  return (document.ending, text)

/-- A document that is made is printed in its layout, with a line feed behind it. -/
theorem printed_of_layout {l : Json.Layout} (h : layout host.widestIndent c = .ok l)
    (d : Document) :
    printed host c (.ok d) = .ok (d.ending, d.content.toText l ++ ['\n']) := by
  simp [printed, print, h, Except.map, bind, Except.bind, pure, Except.pure]

/-- Nothing is printed where no document is made or the layout is unknown. -/
theorem exists_printed_eq_error {made : Except Fault Document}
    (h : ¬ (made.isOk = true ∧ CanIndent host.widestIndent c)) :
    ∃ fault, printed host c made = .error fault := by
  rw [← layout_isOk_iff] at h
  cases made with
  | error fault => exact ⟨fault, rfl⟩
  | ok d =>
    cases hlayout : layout host.widestIndent c with
    | error fault =>
      refine ⟨fault, ?_⟩
      simp [printed, print, hlayout, Except.map, bind, Except.bind]
    | ok l => exact absurd ⟨rfl, l, hlayout⟩ h

/-- A run ends and writes as its document is printed, unless the stream for it is closed. -/
theorem Invocation.run_eq (invocation : Invocation) (host : Host) (c : Configuration)
    (sink : Log.Sink) :
    ((invocation.run host c sink).ending, (invocation.run host c sink).output) =
      written (invocation.told host c sink).2
        (printed host c (invocation.told host c sink).1) := rfl

/-- A run that ends with its document is cut exactly if messages are lost that were held back. -/
theorem Invocation.isCut_run
    (houtput : (invocation.told host c sink).2.closes Host.outputNumber = false)
    (hending : (invocation.run host c sink).ending.isFailed = false) :
    (invocation.run host c sink).isCut =
      (host.isBuffered && sink.loses (invocation.told host c sink).2) := by
  have hcut : (invocation.run host c sink).isCut = (host.isBuffered &&
      ((printed host c (invocation.told host c sink).1).isOk &&
          (invocation.told host c sink).2.closes Host.outputNumber
        || sink.loses (invocation.told host c sink).2
        || (invocation.run host c sink).ending.isFailed &&
          (invocation.told host c sink).2.closes Host.errorNumber)) := rfl
  rw [hcut, houtput, hending, Bool.and_false, Bool.false_and, Bool.false_or, Bool.or_false]

/-- No document ends a run as a failure. -/
theorem Document.isFailed_ending (d : Document) : d.ending.isFailed = false := by
  rw [Document.ending]
  cases d.isSupported <;> rfl

/-- A document that can be made is of the subject, and its ending says whether there is any. -/
theorem Document.Suits.ending {d : Document} {platform : Text} {t : Translation} {subject : Subject}
    (h : d.Suits platform t subject) :
    (d.ending = .done ∧ subject ≠ .nothing) ∨
      (d.ending = .unsupported ∧ subject = .nothing ∧ ∃ message,
        Inventory.unsupportedMessage t platform = .ok message ∧
          d.content = Inventory.unsupported platform message) := by
  rw [Document.ending]
  by_cases hnothing : subject = .nothing
  · subst hnothing
    exact .inr ⟨by rw [h.1]; rfl, rfl, h.2⟩
  · have hsupported : d.isSupported = true := by
      cases subject with
      | nothing => exact absurd rfl hnothing
      | _ => exact h
    exact .inl ⟨by rw [hsupported]; rfl, hnothing⟩

/-- A run that has its document, laid out, and can write it. -/
theorem Invocation.run_of_made {d : Document} {l : Json.Layout}
    (hmade : (invocation.told host c sink).1 = .ok d) (hlayout : layout host.widestIndent c = .ok l)
    (houtput : ¬ invocation.ClosesStream host c Host.outputNumber) :
    (invocation.run host c sink).ending = d.ending ∧
      (invocation.run host c sink).output = d.content.toText l ++ ['\n'] ∧
      (invocation.run host c sink).isCut =
        (host.isBuffered && sink.loses (invocation.told host c sink).2) := by
  have hok : (invocation.told host c sink).1.isOk = true := isOk_iff.2 ⟨d, hmade⟩
  have hopen : (invocation.told host c sink).2.closes Host.outputNumber = false := by
    rwa [← Bool.not_eq_true, Invocation.closes_told_iff hok]
  have hrun := invocation.run_eq host c sink
  rw [hmade, printed_of_layout hlayout, written, hopen] at hrun
  obtain ⟨hending, htext⟩ := Prod.mk.inj hrun
  refine ⟨hending, htext, Invocation.isCut_run hopen ?_⟩
  rw [hending]
  exact d.isFailed_ending

/-- With the log set up, a run that can use all that it uses answers. -/
theorem Invocation.run_isAnswer (h : invocation.IsReadyWith host c sink) :
    (invocation.run host c sink).IsAnswer host c (invocation.subject host.platform c) := by
  have hok := Invocation.told_isOk_iff.2 h.subject
  obtain ⟨d, hmade⟩ := isOk_iff.1 hok
  obtain ⟨l, hlayout⟩ := layout_isOk_iff.2 h.indent
  obtain ⟨hending, htext, hcut⟩ := Invocation.run_of_made hmade hlayout h.output
  -- nothing is lost at the end, since no held-back message meets a closed stream
  have hwhole : (invocation.run host c sink).isCut = false := by
    rw [hcut]
    by_cases herror : invocation.ClosesStream host c Host.errorNumber
    · cases hbuffered : host.isBuffered with
      | false => rfl
      | true => exact h.messages hbuffered herror
    · rw [← Invocation.closes_told_iff hok, Bool.not_eq_true] at herror
      rw [loses_eq_false herror, Bool.and_false]
  have hcode : (invocation.run host c sink).exitCode = d.ending.exitCode := by
    rw [Outcome.exitCode, hwhole, hending]
    rfl
  have hsuits := document_gives [] d hmade
  refine ⟨d.content, l, hlayout, htext, ?_⟩
  rw [hcode, hending]
  rcases hsuits.ending with ⟨hdone, hsome⟩ | ⟨hnone, hnothing, hmessage⟩
  · exact .inl ⟨hdone, by rw [hdone]; rfl, hsome⟩
  · exact .inr ⟨hnone, by rw [hnone]; rfl, hnothing, hmessage⟩

/-- Any other run fails. -/
theorem Invocation.run_isFailure (h : ¬ invocation.IsReadyWith host c sink) :
    (invocation.run host c sink).IsFailure := by
  rw [invocation.isReadyWith_iff, ← Invocation.told_isOk_iff] at h
  by_cases hmade : (invocation.told host c sink).1.isOk = true ∧ CanIndent host.widestIndent c
  · obtain ⟨hok, hindent⟩ := hmade
    obtain ⟨d, hd⟩ := isOk_iff.1 hok
    obtain ⟨l, hlayout⟩ := layout_isOk_iff.2 hindent
    by_cases houtput : invocation.ClosesStream host c Host.outputNumber
    · -- the document is there, but the stream for it is closed
      have hrun := invocation.run_eq host c sink
      rw [hd, printed_of_layout hlayout, written,
          (Invocation.closes_told_iff hok _).2 houtput] at hrun
      obtain ⟨hending, htext⟩ := Prod.mk.inj hrun
      exact .inl ⟨_, hending, htext⟩
    · have hlost : host.isBuffered = true ∧ sink.loses (invocation.told host c sink).2 = true := by
        by_contra hnone
        refine h ⟨hok, hindent, houtput, fun hbuffered _ => ?_⟩
        rw [← Bool.not_eq_true]
        exact fun hloses => hnone ⟨hbuffered, hloses⟩
      right
      rw [Outcome.exitCode, (Invocation.run_of_made hd hlayout houtput).2.2, hlost.1, hlost.2]
      rfl
  · obtain ⟨fault, hprinted⟩ := exists_printed_eq_error hmade
    have hrun := invocation.run_eq host c sink
    rw [hprinted] at hrun
    obtain ⟨hending, htext⟩ := Prod.mk.inj hrun
    exact .inl ⟨fault, hending, htext⟩

end

/-! ## All runs -/

/-- A host whose only file is a configuration in the working directory. -/
def hostWith (config : String) : Host where
  tree := { nodes := [(["sysinventory.yaml".toList], .file (Text.Utf8.encode config.toList))] }
  platform := storePlatform
  now := .whole 0

/-- A host whose configuration is a local file has none of the system. -/
theorem has_systemPath_hostWith (config : String) :
    (hostWith config).tree.has Settings.systemPath = false := by
  have hroot : (hostWith config).tree.LeadsTo ['/'] [] := ⟨Host.Tree.walk.eq_1 .., rfl⟩
  have hname : Host.Tree.IsEntryName "etc".toList := ⟨by decide, by decide, by decide, by decide⟩
  have hrelative : Host.Path.isAbsolute "etc/sysinventory.yaml".toList = false := by decide
  have hcomponents : Host.Path.components "etc/sysinventory.yaml".toList =
      ["etc".toList, "sysinventory.yaml".toList] := by decide
  obtain ⟨fault, h⟩ := hroot.locate_of_missing hname rfl hrelative hcomponents
  have hlocate : (hostWith config).tree.locate Settings.systemPath = .error fault := h
  rw [Host.Tree.has, hlocate]
  rfl

/-- A host whose configuration is a local file gives it when it is read. -/
theorem read_localPath_hostWith (config : String) :
    (hostWith config).tree.read Settings.localPath = .ok (Text.Utf8.encode config.toList) := by
  have hhere : (hostWith config).tree.LeadsTo ['.'] [] := by
    have hpieces : Host.Path.pieces ['.'] = [['.']] := by decide
    refine ⟨?_, rfl⟩
    rw [hpieces, Host.Tree.walk_cons]
    exact Host.Tree.walk.eq_1 ..
  have hname : Host.Tree.IsEntryName "sysinventory.yaml".toList :=
    ⟨by decide, by decide, by decide, by decide⟩
  have hfits : Host.Tree.Fits ['.'] "sysinventory.yaml".toList := ⟨by decide, by decide, by decide⟩
  have hread := hhere.read_of_file hname hfits rfl
  have hadded : (hostWith config).tree.added ([] ++ ["sysinventory.yaml".toList]) = [] := rfl
  rw [hadded, List.append_nil] at hread
  exact hread

/-- A configuration that nobody named comes of the file that is chosen. -/
theorem outcome_load {load : Settings.Loader} {files : Settings.Files} {path : Text}
    (h : Settings.choosePath files false Settings.defaultName = some path) :
    (Configuration.load load files none).outcome =
      (Settings.readEntries load files path).map fun entries =>
        { file := some path, isExplicit := false, entries } := by
  rw [Configuration.load]
  dsimp only [Option.isSome_none]
  rw [h]
  dsimp only
  cases Settings.readEntries load files path <;> rfl

/-- The entries of the configuration of such a host. -/
def entriesIn (config : String) : Except Fault Settings.Entries :=
  Settings.readEntries Yaml.loadBytes (fun _ => some (.ok (Text.Utf8.encode config.toList)))
    Settings.localPath

/-- There is no configuration of the system, so the one in the working directory is loaded. -/
theorem loadConfiguration_hostWith (config : String) {options : Options}
    (hoptions : options.config = none) :
    loadConfiguration Yaml.loadBytes (hostWith config) options =
      (entriesIn config).map fun entries =>
        { file := some Settings.localPath, isExplicit := false, entries } := by
  have hread := read_localPath_hostWith config
  have hhas : (hostWith config).tree.has Settings.localPath = true := by
    cases hlocate : (hostWith config).tree.locate Settings.localPath with
    | ok place =>
      rw [Host.Tree.has, hlocate]
      rfl
    | error fault =>
      rw [Host.Tree.read, hlocate] at hread
      cases hread
  let files : Settings.Files := fun path =>
    if (hostWith config).tree.has path then some ((hostWith config).tree.read path) else none
  have hlocal : files Settings.localPath = some (.ok (Text.Utf8.encode config.toList)) := by
    simp only [files, hhas, if_true, hread]
  have hchosen : Settings.choosePath files false Settings.defaultName =
      some Settings.localPath := by
    have hrelative : ¬ Settings.defaultName.head? = some '/' := by decide
    have hsystem : files Settings.systemPath = none := by simp [files, has_systemPath_hostWith]
    rw [Settings.choosePath, if_neg hrelative]
    simp [hsystem, hlocal]
  have hload : loadConfiguration Yaml.loadBytes (hostWith config) options =
      (Configuration.load Yaml.loadBytes files none).outcome := by
    rw [loadConfiguration, hoptions]
    rfl
  rw [hload, outcome_load hchosen, entriesIn, Settings.readEntries, hlocal, Settings.readEntries]

/-- The configuration that such entries make. -/
def configurationOf (entries : Settings.Entries) : Configuration :=
  { file := some Settings.localPath, isExplicit := false, entries }

/-- What can be decided of the entries holds of the configuration that is loaded. -/
theorem exists_loadConfiguration (config : String) (holds : Settings.Entries → Bool)
    (options : Options) (hoptions : options.config = none)
    (h : (entriesIn config).toOption.map holds = some true) :
    ∃ entries, holds entries = true ∧
      loadConfiguration Yaml.loadBytes (hostWith config) options =
        .ok (configurationOf entries) := by
  obtain ⟨entries, hentries, hholds⟩ := Option.map_eq_some_iff.1 h
  refine ⟨entries, hholds, ?_⟩
  rw [loadConfiguration_hostWith config hoptions, toOption_eq_some_iff.1 hentries]
  rfl

end StorageInventory.CommandLine
