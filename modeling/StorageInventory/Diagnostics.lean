import StorageInventory.Sorting

/-!
# Diagnostics

A pass over a source never stops at a bad line; it counts what it did.  `Diagnostics` holds a count
for every pair of a source and a kind of event, from the first time the pair is recorded on, even if
the counts recorded for it add up to zero.

* `count` and `total` read the counts of one pair and of one kind over all sources,
* `report` lists everything, sources and kinds in the order of code points.
-/

namespace StorageInventory

/-! ## The kinds of events that the passes count -/

namespace EventKind

/-- A line was read. -/
def lines : Text := "lines".toList
/-- A line that should carry data was not understood. -/
def skipped : Text := "skipped".toList
/-- A field could not be read and got its default. -/
def defaulted : Text := "defaulted".toList
/-- A line stood outside every block that is in scope. -/
def ignored : Text := "ignored".toList
/-- A block names a device that is not in scope. -/
def outOfScope : Text := "out_of_scope".toList
/-- A source gave no lines. -/
def unavailable : Text := "unavailable".toList
/-- The minor number of a partition could not be found. -/
def lookupFailed : Text := "lookup_failed".toList

end EventKind

/-- The count of one kind of event at one source. -/
structure Tally where
  source : Text
  kind : Text
  count : Int
  deriving DecidableEq

/-- The counts of a pass, one tally for every pair recorded. -/
structure Diagnostics where
  tallies : List Tally := []
  deriving DecidableEq

namespace Diagnostics

/-- Add to the tally of a pair, which is made if there is none. -/
def addTo (source kind : Text) (n : Int) : List Tally → List Tally
  | [] => [⟨source, kind, n⟩]
  | t :: rest =>
    if t.source = source ∧ t.kind = kind then { t with count := t.count + n } :: rest
    else t :: addTo source kind n rest

/-- Record a number of events. -/
def record (d : Diagnostics) (source kind : Text) (n : Int) : Diagnostics :=
  ⟨addTo source kind n d.tallies⟩

/-- The number of events of one kind at one source. -/
def count (d : Diagnostics) (source kind : Text) : Int :=
  ((d.tallies.find? fun t => t.source = source ∧ t.kind = kind).map Tally.count).getD 0

/-- The number of events of one kind at all sources. -/
def total (d : Diagnostics) (kind : Text) : Int :=
  (d.tallies.filter fun t => t.kind = kind).foldl (fun n t => n + t.count) 0

/-- The sources recorded, in the order of code points. -/
def sources (d : Diagnostics) : List Text :=
  sortBy Text.le (d.tallies.map Tally.source).eraseDups

/-- The kinds recorded for a source with their counts, in the order of code points. -/
def kinds (d : Diagnostics) (source : Text) : List (Text × Int) :=
  sortBy (fun a b => Text.le a.1 b.1)
    ((d.tallies.filter fun t => t.source = source).map fun t => (t.kind, t.count))

/-- Everything recorded, source by source. -/
def report (d : Diagnostics) : List (Text × List (Text × Int)) :=
  d.sources.map fun source => (source, d.kinds source)

end Diagnostics

end StorageInventory
