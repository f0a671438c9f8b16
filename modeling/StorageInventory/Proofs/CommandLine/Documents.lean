import Mathlib.Tactic
import StorageInventory.Proofs.Collection.Boundary
import StorageInventory.Proofs.Linux.StoreReading
import StorageInventory.Proofs.Session.Views

/-!
# When there is a document

What a run looks at depends on its command, on the platform and on whether a capture is configured.
Each of these subjects needs some of the settings, some need the clock and names that can be put in
order, and some need words: what they tell has to be given in the configured language.  There is a
document exactly if the subject has what it needs.

* `CanCollectIn` — what a collection of disks needs,
* `Invocation.subject`, `Subject.IsReady` — what a run looks at, and what this needs,
* `document_isOk_iff` — there is a document exactly if the subject has what it needs,
* `document_closes_iff` — what is closed once there is a document,
* `document_gives` — the document says whether the platform tells of something.
-/

namespace StorageInventory

open Settings (Configuration Value)

/-! ## Disks -/

section

open Name Pass Telling

variable {host : Host} {p : Provider} {timestamp : Int}

/-- The clock can be told, and the names of what the provider describes can be put in order. -/
def CanCollect (host : Host) (p : Provider) : Prop :=
  ∃ timestamp, host.milliseconds = .ok timestamp ∧
    ∀ name, (gather p timestamp).2.HasName name → Sortable name

/-- At the beginning of a run, collecting from a host is collecting as of its moment. -/
theorem run_collectFrom (hclock : host.milliseconds = .ok timestamp) :
    (collectFrom host p).run [] =
      ((collect p geometryRule timestamp).2, (collect p geometryRule timestamp).1.journal) := by
  have hafter : p.after [] = p := rfl
  have hlift : collectFrom host p =
      (Telling.of (.ok timestamp) >>= fun timestamp => Telling.past >>= fun before =>
        .of (collect (p.after before) geometryRule timestamp).2
          (collect (p.after before) geometryRule timestamp).1.journal) := by
    rw [collectFrom, hclock]
    rfl
  rw [hlift, run_bind, run_of]
  dsimp only
  rw [run_bind, run_past]
  dsimp only
  rw [run_of, List.append_nil, hafter]
  rfl

/-- What is told can be collected exactly if the clock and the names allow it. -/
theorem collectFrom_isOk_iff :
    ((collectFrom host p).run []).1.isOk = true ↔ CanCollect host p := by
  cases hclock : host.milliseconds with
  | error fault =>
    refine iff_of_false ?_ ?_
    · rw [collectFrom, hclock]
      exact Bool.false_ne_true
    · rintro ⟨timestamp, htold, -⟩
      rw [hclock] at htold
      cases htold
  | ok timestamp =>
    have hmoment : CanCollect host p ↔
        ∀ name, (gather p timestamp).2.HasName name → Sortable name := by
      simp [CanCollect, hclock]
    rw [hmoment, run_collectFrom hclock]
    rcases collect_cases p timestamp with ⟨fault, hcollect, -, hnot⟩ | ⟨snapshot, hcollect, -, hall⟩
    · rw [hcollect]
      exact iff_of_false Bool.false_ne_true hnot
    · rw [hcollect]
      exact iff_of_true rfl hall

/-- Collecting closes nothing that the provider leaves open. -/
theorem closes_collectFrom {n : Int} (hp : p.Tells fun entry => entry.closes n = false)
    (hclock : host.milliseconds = .ok timestamp) :
    ((collectFrom host p).run []).2.closes n = false := by
  rw [run_collectFrom hclock]
  exact closes_collect hp geometryRule timestamp

/-- What a collection in a language needs: what its provider says in the language can be collected,
and the language has words for all that is told on the way. -/
@[mk_iff]
structure CanCollectIn (host : Host) (t : Translation) (p : Provider) : Prop where
  collect : CanCollect host (p.inLanguage t)
  words : t.Covers (collectFrom host (p.inLanguage t)).journal

/-- Something can be made of a collection in a language exactly if there is what it needs. -/
theorem collectFrom_inLanguage_isOk_iff {β : Type} (f : Snapshot → β) (t : Translation) :
    (((f <$> collectFrom host (p.inLanguage t)).inLanguage t).run []).1.isOk = true ↔
      CanCollectIn host t p := by
  rw [inLanguage_isOk_iff, run_map, canCollectIn_iff, ← collectFrom_isOk_iff, Telling.journal]
  simp only [isOk_iff, exists_map_eq_ok_iff]

end

/-! ## Subjects -/

namespace CommandLine

open Host Telling

/-- What a run looks at. -/
inductive Subject where
  /-- Disks, as a capture tells of them. -/
  | capture (place : Value)
  /-- Disks, as the commands of the host tell of them. -/
  | commands
  /-- File stores, with the descriptor counts or without them. -/
  | stores (withDescriptors : Bool)
  /-- Nothing, on a platform that tells of nothing. -/
  | nothing

/-- What an invocation looks at. -/
def Invocation.subject (invocation : Invocation) (platform : Text) (c : Configuration) : Subject :=
  let capture := captureDirectory c invocation.options.capture
  match invocation.command with
  | .disks => if capture.isTruthy then .capture capture else .commands
  | .filesystems => .stores false
  | .inventory =>
    if capture.isTruthy then .capture capture
    else if platform = diskPlatform then .commands
    else if platform = storePlatform then .stores true
    else .nothing

/-- What a subject needs, if it is told of in a language.  A collection of disks needs words, and so
does a platform that tells of nothing; only commands need a timeout; and the stores need their
places. -/
def Subject.IsReady (host : StorageInventory.Host) (c : Configuration) (t : Translation) :
    Subject → Prop
  | .capture place => CanCollectIn host t (replay host place)
  | .commands => ∃ timeout, c.commandTimeout = .ok timeout ∧
      CanCollectIn host t (Provider.live host.run timeout)
  | .stores withDescriptors => (Linux.Places.ofConfiguration c).IsReady host ∧
      (withDescriptors = true → isReadable c.descriptorFile = true)
  | .nothing => ∃ message, Inventory.unsupportedMessage t host.platform = .ok message

/-- The settings that name the files which are read as they are open. -/
def Subject.files (c : Configuration) : Subject → List Value
  | .stores withDescriptors => c.mountsFile :: if withDescriptors then [c.descriptorFile] else []
  | _ => []

/-- The document of a supported platform, or the one that says that it is none. -/
def Document.Suits (platform : Text) (t : Translation) (d : Document) : Subject → Prop
  | .nothing => d.isSupported = false ∧ ∃ message,
      Inventory.unsupportedMessage t platform = .ok message ∧
        d.content = Inventory.unsupported platform message
  | _ => d.isSupported = true

/-- The sources of an inventory of a subject. -/
def Subject.sources (host : StorageInventory.Host) (c : Configuration) :
    Subject → Except Fault Inventory.Sources
  | .capture place => .ok { disks := some (replay host place), stores := none }
  | .commands => c.commandTimeout.map fun timeout =>
      { disks := some (Provider.live host.run timeout), stores := none }
  | .stores _ => .ok { disks := none, stores := some (Linux.Places.ofConfiguration c) }
  | .nothing => .ok { disks := none, stores := none }

section

variable {host : StorageInventory.Host} {c : Configuration} {invocation : Invocation}
  {t : Translation}

/-- The sources of an inventory are those of its subject. -/
theorem sources_eq (host : StorageInventory.Host) (c : Configuration) (options : Options) :
    Inventory.sources host c options.capture =
      (Invocation.subject ⟨.inventory, options⟩ host.platform c).sources host c := by
  have happart : ¬ diskPlatform = storePlatform := by decide
  rw [Inventory.sources, Invocation.subject]
  dsimp only
  by_cases hcapture : (captureDirectory c options.capture).isTruthy = true
  · simp [hcapture, Except.map, Subject.sources]
  · rw [if_neg hcapture, if_neg hcapture]
    by_cases hdisks : host.platform = diskPlatform
    · rw [if_pos hdisks, if_pos hdisks, hdisks, decide_eq_false happart,
        Bool.false_and, runCommands,
        Subject.sources]
      cases c.commandTimeout <;> rfl
    · rw [if_neg hdisks, if_neg hdisks]
      by_cases hstores : host.platform = storePlatform
      · simp [hstores, hcapture, Except.map, Subject.sources]
      · simp [hstores, Except.map, Subject.sources]

/-- Where the sources are known, the inventory comes of them. -/
theorem take_eq {asked : Option Text} {sources : Inventory.Sources}
    (h : Inventory.sources host c asked = .ok sources) :
    Inventory.take host c asked t = (do
      if sources.disks.isNone && sources.stores.isNone then
        Telling.tell (.unsupportedPlatform host.platform)
      let snapshot ← Inventory.whenGiven
        (fun p => collectFrom host (p.inLanguage t)) sources.disks
      let stores ← Inventory.whenGiven (Inventory.readStores host) sources.stores
      return { platform := host.platform, snapshot, stores }) := by
  rw [Inventory.take, h]
  exact pure_bind _ _

/-- The document of an inventory that tells of something. -/
def documentOf (inventory : Inventory) : Document where
  content := .object inventory.members
  isSupported := inventory.isSupported

/-- A capture is collected from. -/
theorem document_of_capture {place : Value}
    (h : invocation.subject host.platform c = .capture place) :
    ∃ f : Snapshot → Document, (∀ s, (f s).isSupported = true) ∧
      invocation.document host c t =
        f <$> collectFrom host ((replay host place).inLanguage t) := by
  obtain ⟨command, options⟩ := invocation
  cases command with
  | filesystems => exact absurd h (by simp [Invocation.subject])
  | disks =>
    rw [Invocation.subject] at h
    dsimp only at h
    split_ifs at h with hcapture
    obtain rfl := Subject.capture.inj h
    refine ⟨fun s => { content := s.toJson options.withDiagnostics }, fun _ => rfl, ?_⟩
    rw [Invocation.document, map_eq_pure_bind]
    dsimp only
    rw [diskProvider, if_pos hcapture]
    exact pure_bind _ _
  | inventory =>
    have hsources := sources_eq host c options
    rw [h, Subject.sources] at hsources
    refine ⟨fun s => documentOf ⟨host.platform, some s, none⟩, fun _ => rfl, ?_⟩
    rw [Invocation.document]
    dsimp only
    rw [take_eq hsources]
    simp [Inventory.whenGiven, Inventory.isSupported, Inventory.toJson, documentOf]

/-- Commands are run with their timeout, and without a timeout there is no document. -/
theorem document_of_commands (h : invocation.subject host.platform c = .commands) :
    ∃ f : Snapshot → Document, (∀ s, (f s).isSupported = true) ∧
      invocation.document host c t =
        (Telling.of c.commandTimeout >>= fun timeout =>
          f <$> collectFrom host ((Provider.live host.run timeout).inLanguage t)) := by
  obtain ⟨command, options⟩ := invocation
  cases command with
  | filesystems => exact absurd h (by simp [Invocation.subject])
  | disks =>
    rw [Invocation.subject] at h
    dsimp only at h
    split_ifs at h with hcapture
    refine ⟨fun s => { content := s.toJson options.withDiagnostics }, fun _ => rfl, ?_⟩
    rw [Invocation.document]
    dsimp only
    rw [diskProvider, if_neg hcapture, runCommands]
    cases c.commandTimeout with
    | error fault => rfl
    | ok timeout =>
      rw [of_ok_bind, map_eq_pure_bind]
      exact pure_bind _ _
  | inventory =>
    have hsources := sources_eq host c options
    rw [h, Subject.sources] at hsources
    refine ⟨fun s => documentOf ⟨host.platform, some s, none⟩, fun _ => rfl, ?_⟩
    rw [Invocation.document]
    dsimp only
    cases htimeout : c.commandTimeout with
    | error fault =>
      rw [htimeout] at hsources
      rw [Inventory.take, hsources]
      rfl
    | ok timeout =>
      rw [htimeout] at hsources
      rw [take_eq hsources, of_ok_bind]
      simp [Inventory.whenGiven, Inventory.isSupported, Inventory.toJson, documentOf]

/-- File stores are read, with the descriptor counts in an inventory. -/
theorem document_of_stores {withDescriptors : Bool}
    (h : invocation.subject host.platform c = .stores withDescriptors) :
    (invocation.document host c t).EndsAfter [] ((Subject.stores withDescriptors).IsReady host c t)
        (fun n => ∃ place ∈ (Subject.stores withDescriptors).files c, Closes host.opened place n) ∧
      (invocation.document host c t).Gives fun d => d.isSupported = true := by
  obtain ⟨command, options⟩ := invocation
  cases command with
  | disks =>
    rw [Invocation.subject] at h
    dsimp only at h
    split_ifs at h
  | filesystems =>
    obtain rfl := Subject.stores.inj h
    have hdocument : Invocation.document ⟨.filesystems, options⟩ host c t =
        (fun stores => { content := .list (stores.map Linux.FileStore.toJson) }) <$>
          (Linux.Places.ofConfiguration c).fileStores host := (bind_pure_comp _ _)
    have hends := (Linux.fileStores_endsAfter host (Linux.Places.ofConfiguration c)).map
      fun stores => ({ content := .list (stores.map Linux.FileStore.toJson) } : Document)
    rw [hdocument]
    exact ⟨hends.congr (by simp [Subject.IsReady]) (fun _ n => by simp [Subject.files,
      Linux.Places.ofConfiguration]), gives_map fun _ => rfl⟩
  | inventory =>
    -- an inventory without disks reads the same stores, and the descriptors as well
    have hsources := sources_eq host c options
    rw [h, Subject.sources] at hsources
    obtain rfl : withDescriptors = true := by
      rw [Invocation.subject] at h
      dsimp only at h
      split_ifs at h
      exact (Subject.stores.inj h).symm
    have hdocument : Invocation.document ⟨.inventory, options⟩ host c t =
        (fun stores => documentOf ⟨host.platform, none, some stores⟩) <$>
          Inventory.readStores host (Linux.Places.ofConfiguration c) := by
      rw [Invocation.document]
      dsimp only
      rw [take_eq hsources]
      simp [Inventory.whenGiven, Inventory.isSupported, Inventory.toJson, documentOf]
    have hends := (Linux.readStores_endsAfter host (Linux.Places.ofConfiguration c)).map
      fun stores => documentOf ⟨host.platform, none, some stores⟩
    rw [hdocument]
    exact ⟨hends.congr (by simp [Subject.IsReady, Linux.Places.ofConfiguration]) (fun _ n => by
      simp [Subject.files, Linux.Places.ofConfiguration]), gives_map fun _ => rfl⟩

/-- A platform that tells of nothing is told of, and the document says so. -/
theorem document_of_nothing (h : invocation.subject host.platform c = .nothing) :
    invocation.document host c t = (do
      Telling.tell (.unsupportedPlatform host.platform)
      let message ← Inventory.unsupportedMessage t host.platform
      return { content := Inventory.unsupported host.platform message, isSupported := false }) := by
  obtain ⟨command, options⟩ := invocation
  cases command with
  | disks =>
    rw [Invocation.subject] at h
    dsimp only at h
    split_ifs at h
  | filesystems => exact absurd h (by simp [Invocation.subject])
  | inventory =>
    have hsources := sources_eq host c options
    rw [h, Subject.sources] at hsources
    rw [Invocation.document]
    dsimp only
    rw [take_eq hsources]
    simp [Inventory.whenGiven, Inventory.isSupported, Inventory.toJson]

/-- The message of a platform that tells of nothing has the words of the notice about it. -/
theorem covers_of_unsupportedMessage {platform message : Text}
    (h : Inventory.unsupportedMessage t platform = .ok message) :
    t.Covers [.notice (.unsupportedPlatform platform)] := by
  obtain ⟨found, hfound, -⟩ := bind_eq_ok_iff.1 h
  refine List.forall_mem_singleton.2 ?_
  rw [JournalEntry.fault?, Log.Notice.wording]
  simp only [Log.Notice.isTranslated, if_true, hfound]

/-- What a run does whose platform tells of nothing. -/
theorem run_of_nothing (h : invocation.subject host.platform c = .nothing) :
    (invocation.document host c t).run [] =
      ((Inventory.unsupportedMessage t host.platform).map fun message =>
          { content := Inventory.unsupported host.platform message, isSupported := false },
        [.notice (.unsupportedPlatform host.platform)]) := by
  rw [document_of_nothing h, run_bind, run_tell]
  cases Inventory.unsupportedMessage t host.platform <;> rfl

/-- There is a document exactly if the subject has what it needs. -/
theorem document_isOk_iff :
    (((invocation.document host c t).inLanguage t).run []).1.isOk = true ↔
      (invocation.subject host.platform c).IsReady host c t := by
  cases hsubject : invocation.subject host.platform c with
  | capture place =>
    obtain ⟨f, -, hdocument⟩ := document_of_capture (t := t) hsubject
    rw [hdocument, collectFrom_inLanguage_isOk_iff, Subject.IsReady]
  | commands =>
    obtain ⟨f, -, hdocument⟩ := document_of_commands (t := t) hsubject
    rw [hdocument, Subject.IsReady]
    cases htimeout : c.commandTimeout with
    | error fault =>
      -- without a timeout no command is run
      refine iff_of_false Bool.false_ne_true ?_
      rintro ⟨timeout, heq, -⟩
      cases heq
    | ok timeout =>
      rw [of_ok_bind, collectFrom_inLanguage_isOk_iff]
      refine ⟨fun h => ⟨timeout, rfl, h⟩, ?_⟩
      rintro ⟨other, heq, h⟩
      rwa [Except.ok.inj heq]
  | stores withDescriptors => exact ((document_of_stores hsubject).1.inLanguage t).isOk
  | nothing =>
    rw [inLanguage_isOk_iff, run_of_nothing hsubject, Subject.IsReady, isOk_iff,
      exists_map_eq_ok_iff]
    refine and_iff_left_of_imp ?_
    rintro ⟨message, hmessage⟩
    exact covers_of_unsupportedMessage hmessage

/-- Replaying a capture closes nothing. -/
theorem tells_replay (host : StorageInventory.Host) (place : Value) (n : Int) :
    (replay host place).Tells fun entry => entry.closes n = false := by
  have hfiles : host.files.Tells fun entry => entry.closes n = false :=
    fun _ => List.forall_mem_nil _
  cases place with
  | text path => exact Provider.tells_captured (fun _ => rfl) hfiles path
  | _ => exact Provider.tells_failing _

/-- Once there is a document, only the files of the subject are closed that were open as streams. -/
theorem document_closes_iff
    (hok : (((invocation.document host c t).inLanguage t).run []).1.isOk = true) (n : Int) :
    (((invocation.document host c t).inLanguage t).run []).2.closes n = true ↔
      ∃ place ∈ (invocation.subject host.platform c).files c, Closes host.opened place n := by
  have hready := document_isOk_iff.1 hok
  rw [journal_inLanguage hok]
  cases hsubject : invocation.subject host.platform c with
  | capture place =>
    obtain ⟨f, -, hdocument⟩ := document_of_capture (t := t) hsubject
    rw [hsubject] at hready
    obtain ⟨⟨timestamp, hclock, -⟩, -⟩ := hready
    rw [hdocument, run_map, closes_collectFrom ((tells_replay host place n).inLanguage t) hclock]
    simp [Subject.files]
  | commands =>
    obtain ⟨f, -, hdocument⟩ := document_of_commands (t := t) hsubject
    rw [hsubject] at hready
    obtain ⟨timeout, htimeout, ⟨timestamp, hclock, -⟩, -⟩ := hready
    -- a command tells of itself and closes nothing
    have htells : (Provider.live host.run timeout).Tells fun entry => entry.closes n = false :=
      Provider.tells_live (fun _ => rfl) (fun _ => rfl) _ _
    rw [hdocument, htimeout, of_ok_bind, run_map, closes_collectFrom (htells.inLanguage t) hclock]
    simp [Subject.files]
  | stores withDescriptors =>
    have hends := (document_of_stores (t := t) hsubject).1
    have hcloses := hends.closes (inLanguage_isOk_iff.1 hok).1 n
    have hnone : ¬ Journal.closes n [] = true := Bool.false_ne_true
    rwa [List.nil_append, or_iff_right hnone] at hcloses
  | nothing =>
    rw [run_of_nothing hsubject]
    simp [Subject.files, Journal.closes, JournalEntry.closes]

/-- The document says whether the platform tells of something. -/
theorem document_gives :
    ((invocation.document host c t).inLanguage t).Gives fun d =>
      d.Suits host.platform t (invocation.subject host.platform c) := by
  refine Gives.inLanguage ?_ t
  cases hsubject : invocation.subject host.platform c with
  | capture place =>
    obtain ⟨f, hsupported, hdocument⟩ := document_of_capture (t := t) hsubject
    rw [hdocument]
    exact gives_map hsupported
  | commands =>
    obtain ⟨f, hsupported, hdocument⟩ := document_of_commands (t := t) hsubject
    rw [hdocument]
    exact gives_bind fun timeout => gives_map hsupported
  | stores withDescriptors => exact (document_of_stores hsubject).2
  | nothing =>
    rw [document_of_nothing hsubject]
    refine gives_bind fun _ before d hd => ?_
    cases hmessage : Inventory.unsupportedMessage t host.platform with
    | error fault =>
      rw [hmessage] at hd
      cases hd
    | ok message =>
      rw [hmessage] at hd
      obtain rfl := Except.ok.inj hd
      exact ⟨rfl, message, hmessage, rfl⟩

end

end CommandLine

end StorageInventory
