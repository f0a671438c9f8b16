import StorageInventory.Fault
import StorageInventory.Sorting
import StorageInventory.Text.Basic

/-!
# Natural order of names

Device names are ordered the way people read them: runs of decimal digits count by value, so `ada2`
comes before `ada10`.  A name is cut into maximal runs of decimal digits and the runs between them.
Numbers come before words, and names with the same runs are ordered by code point, so that the order
tells any two names apart.

Two kinds of names have no key: one with a run of more than 4300 digits, and one with a run between
the digits that consists of digit-like characters alone, such as a superscript two.
-/

namespace StorageInventory.Name

open Text

/-- Cut a text into maximal runs of characters that are all decimal digits or all not. -/
def runs : Text → List (Bool × Text)
  | [] => []
  | c :: rest =>
    match runs rest with
    | (digits, run) :: more =>
      if isDecimal c = digits then (digits, c :: run) :: more
      else (isDecimal c, [c]) :: (digits, run) :: more
    | [] => [(isDecimal c, [c])]

/-- A run as it is compared: a number by its value, a word by its code points. -/
inductive Chunk where
  | number (value : Nat)
  | word (text : Text)
  deriving DecidableEq, Repr

namespace Chunk

/-- The chunk of a run. -/
def ofRun : Bool × Text → Except Fault Chunk
  | (true, run) =>
    if Number.digitLimit < run.length then .error (.integerTooLong run.length)
    else .ok (.number (Number.ofDigits (run.filterMap decimalDigit?)))
  | (false, run) =>
    if run.all isDigitLike then .error (.notInteger 10 run) else .ok (.word run)

/-- The order of chunks, numbers first. -/
def le : Chunk → Chunk → Bool
  | .number a, .number b => a ≤ b
  | .number _, .word _ => true
  | .word _, .number _ => false
  | .word a, .word b => Text.le a b

end Chunk

/-- The chunks of a list of runs; the first run without a chunk makes it fail. -/
def chunksOf : List (Bool × Text) → Except Fault (List Chunk)
  | [] => .ok []
  | run :: more =>
    match Chunk.ofRun run with
    | .error fault => .error fault
    | .ok chunk => (chunksOf more).map (chunk :: ·)

/-- The key by which names are ordered. -/
structure NaturalKey where
  chunks : List Chunk
  name : Text
  deriving DecidableEq

namespace NaturalKey

/-- The key of a name. -/
def ofName (name : Text) : Except Fault NaturalKey :=
  (chunksOf (runs name)).map fun chunks => ⟨chunks, name⟩

/-- The order of lists of chunks, a proper beginning first; `none` if they are the same. -/
def compareChunks : List Chunk → List Chunk → Option Bool
  | [], [] => none
  | [], _ :: _ => some true
  | _ :: _, [] => some false
  | a :: as, b :: bs => if a = b then compareChunks as bs else some (Chunk.le a b)

/-- The order of keys: by chunks, and by name where those are the same. -/
def le (a b : NaturalKey) : Bool :=
  match compareChunks a.chunks b.chunks with
  | some answer => answer
  | none => Text.le a.name b.name

end NaturalKey

/-- The elements with the keys of their names; the first name without a key makes it fail. -/
def keyed {α : Type} (nameOf : α → Text) : List α → Except Fault (List (NaturalKey × α))
  | [] => .ok []
  | a :: more =>
    match NaturalKey.ofName (nameOf a) with
    | .error fault => .error fault
    | .ok key => (keyed nameOf more).map ((key, a) :: ·)

/-- Sort by the natural order of names. -/
def sortByName {α : Type} (nameOf : α → Text) (xs : List α) : Except Fault (List α) :=
  (keyed nameOf xs).map fun pairs => (sortBy (fun a b => a.1.le b.1) pairs).map Prod.snd

end StorageInventory.Name
