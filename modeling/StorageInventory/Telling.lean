import StorageInventory.Log.Notice

/-!
# Telling computations

Looking at a host may fail, and it leaves entries in the journal, also when it fails in the end: the
notices that it gave, the commands that it ran, and the numbers under which it found something open
and closed it.  What is seen can depend on the entries so far, since the journal may be written to a
file of the host while the computation goes on.  A `Telling` is all of this: given the entries
before it, its outcome and the entries that it adds.  Tellings follow each other as long as they
succeed, each with the entries of those before it.

* `Telling.run_bind` says so, and the monad is a lawful one,
* `Telling.inLanguage` is a telling whose messages are looked up in a language: it stops at the
  first one for which this fails.
-/

namespace StorageInventory

/-! ## The journal -/

/-- A command that was run, with the seconds it was given. -/
structure CommandCall where
  words : List Text
  timeout : Int
  deriving DecidableEq, Repr

/-- One entry of the journal. -/
inductive JournalEntry where
  | notice (notice : Log.Notice)
  | call (call : CommandCall)
  /-- What was open under a number is closed. -/
  | closed (number : Int)

/-- Entries in the order in which they happened. -/
abbrev Journal := List JournalEntry

/-- The entry says that what was open under the number is closed. -/
def JournalEntry.closes (number : Int) : JournalEntry → Bool
  | .closed n => n = number
  | _ => false

namespace Journal

/-- The notices of a journal. -/
def notices (journal : Journal) : List Log.Notice :=
  journal.filterMap fun
    | .notice n => some n
    | _ => none

/-- The commands of a journal. -/
def calls (journal : Journal) : List CommandCall :=
  journal.filterMap fun
    | .call c => some c
    | _ => none

/-- What was open under the number is closed. -/
def closes (number : Int) (journal : Journal) : Bool := journal.any (·.closes number)

/-- The entries before what was open under the number is closed. -/
def before (number : Int) (journal : Journal) : Journal :=
  journal.takeWhile (!·.closes number)

/-- The entries after what was open under the number is closed. -/
def since (number : Int) (journal : Journal) : Journal :=
  journal.dropWhile (!·.closes number)

end Journal

/-! ## Telling -/

/-- A computation that comes to something and writes to the journal on the way. -/
@[ext]
structure Telling (α : Type) where
  /-- The outcome and the entries added, given the entries before. -/
  run : Journal → Except Fault α × Journal

namespace Telling

variable {α β : Type}

/-- Come to an outcome with given entries, whatever was told before. -/
def of (outcome : Except Fault α) (entries : Journal := []) : Telling α :=
  ⟨fun _ => (outcome, entries)⟩

/-- Add entries. -/
def note (entries : Journal) : Telling Unit := .of (.ok ()) entries

/-- Give a notice. -/
def tell (notice : Log.Notice) : Telling Unit := note [.notice notice]

/-- The entries before this point. -/
def past : Telling Journal := ⟨fun before => (.ok before, [])⟩

/-- What a computation comes to at the beginning of a journal. -/
def outcome (x : Telling α) : Except Fault α := (x.run []).1

/-- What a computation writes at the beginning of a journal. -/
def journal (x : Telling α) : Journal := (x.run []).2

/-- The computation as it goes on after some entries. -/
def after (before : Journal) (x : Telling α) : Telling α := ⟨fun more => x.run (before ++ more)⟩

/-- Go on with the result, if there is one. -/
def andThen (x : Telling α) (f : α → Telling β) : Telling β where
  run before :=
    match x.run before with
    | (.ok a, entries) =>
      let (outcome, more) := (f a).run (before ++ entries)
      (outcome, entries ++ more)
    | (.error fault, entries) => (.error fault, entries)

/-- Go on with the fault, if there is one. -/
def orElse (x : Telling α) (handle : Fault → Telling α) : Telling α where
  run before :=
    match x.run before with
    | (.ok a, entries) => (.ok a, entries)
    | (.error fault, entries) =>
      let (outcome, more) := (handle fault).run (before ++ entries)
      (outcome, entries ++ more)

instance : Monad Telling where
  pure a := .of (.ok a)
  bind := andThen

instance : MonadExceptOf Fault Telling where
  throw fault := .of (.error fault)
  tryCatch := orElse

instance : MonadLift (Except Fault) Telling where
  monadLift outcome := .of outcome

/-! ## What the steps do -/

/-- A known outcome is come to whatever was told before. -/
@[simp] theorem run_of (outcome : Except Fault α) (entries before : Journal) :
    (of outcome entries).run before = (outcome, entries) := rfl

/-- What is simply returned tells nothing. -/
@[simp] theorem run_pure (a : α) (before : Journal) :
    (pure a : Telling α).run before = (.ok a, []) := rfl

/-- A fault tells nothing by itself. -/
@[simp] theorem run_throw (fault : Fault) (before : Journal) :
    (throw fault : Telling α).run before = (.error fault, []) := rfl

/-- Telling a notice puts it into the journal and cannot fail. -/
@[simp] theorem run_tell (notice : Log.Notice) (before : Journal) :
    (tell notice).run before = (.ok (), [.notice notice]) := rfl

/-- The past is what was told before. -/
@[simp] theorem run_past (before : Journal) : past.run before = (.ok before, []) := rfl

/-- The second of two tellings starts from the entries of the first, and adds its own. -/
theorem run_bind (x : Telling α) (f : α → Telling β) (before : Journal) :
    (x >>= f).run before =
      match x.run before with
      | (.ok a, entries) =>
        (((f a).run (before ++ entries)).1, entries ++ ((f a).run (before ++ entries)).2)
      | (.error fault, entries) => (.error fault, entries) := rfl

instance : LawfulMonad Telling := LawfulMonad.mk' Telling
  (fun x => by
    ext1
    funext before
    rcases h : x.run before with ⟨outcome, entries⟩
    cases outcome <;> simp [Functor.map, andThen, h, of])
  (fun a f => by
    ext1
    funext before
    simp [run_bind])
  (fun x f g => by
    ext1
    funext before
    rcases h : x.run before with ⟨outcome, entries⟩
    cases outcome with
    | error fault => simp [run_bind, h]
    | ok a =>
      rcases k : (f a).run (before ++ entries) with ⟨next, more⟩
      cases next <;> simp [run_bind, h, k])

end Telling

/-! ## Messages in a language -/

/-- What looking a message up in a language gives. -/
abbrev Translation := Text → Except Fault Text

namespace Log.Notice

/-- The template of a notice in a language. -/
def wording (t : Translation) (notice : Notice) : Except Fault Text :=
  if notice.isTranslated then t notice.template else .ok notice.template

end Log.Notice

/-- What giving an entry in a language fails with, if it does. -/
def JournalEntry.fault? (t : Translation) : JournalEntry → Option Fault
  | .notice n =>
    match n.wording t with
    | .ok _ => none
    | .error fault => some fault
  | _ => none

/-- The template of a fault whose wording is looked up, with the items for its placeholders. -/
def Fault.template? : Fault → Option (Text × List Log.Item)
  | .partitionName name => some ("Invalid partition name: %r".toList, [.text name])
  | .descriptorField => some (Fault.message .descriptorField, [])
  | _ => none

/-- Look a template up and fill it; without items it is shown as it is. -/
def Translation.filled (t : Translation) (template : Text) (items : List Log.Item) :
    Except Fault Text :=
  (t template).bind fun found =>
    if items.isEmpty then .ok found else Log.fill found (.inOrder items)

/-- A fault as it is raised in a language: where its wording cannot be looked up or filled, that is
the fault instead. -/
def Fault.inLanguage (t : Translation) (fault : Fault) : Fault :=
  match fault.template? with
  | none => fault
  | some (template, items) =>
    match t.filled template items with
    | .ok saying => .reported fault.className saying
    | .error other => other

/-- A telling whose messages are looked up in a language: all before the first message for which
this fails, and the fault in its place. -/
def Telling.inLanguage {α : Type} (t : Translation) (x : Telling α) : Telling α where
  run before :=
    let (outcome, entries) := x.run before
    match entries.findSome? (·.fault? t) with
    | some fault => (.error fault, entries.takeWhile fun entry => (entry.fault? t).isNone)
    | none => (outcome.mapError (Fault.inLanguage t), entries)

end StorageInventory
