import Mathlib.Tactic
import StorageInventory.Proofs.Session.Views

/-!
# Which names are looked up

A collection looks up the partitions of a block at the end of the block, in the order of its lines,
and nothing else.  So a collection that does not fail has asked for the names that the rule accepts
in the blocks in scope, each as often as it is accepted.

* `asked_attach` — to attach a batch is to ask for its names,
* `asked_readPartitionGeometry` — the names that a listing asks for, if it can be read,
* `asked_gather`, `asked_snapshot` — nothing else asks.
-/

namespace StorageInventory

open Name Pass

/-! ## Lookups -/

namespace Session

/-- Asking for a name notes it. -/
theorem asked_askMinor (s : Session) (lookup : Text → Answer) (name : Text) :
    (s.askMinor lookup name).1.asked = s.asked ++ [name] := by
  rw [askMinor]
  dsimp only
  split <;> rfl

/-- Resolving a batch notes all of its names. -/
theorem asked_resolveAll {lookup : Text → Answer} {batch resolved : List Partition} {s : Session}
    (hok : (resolveAll lookup batch s).2 = .ok resolved) :
    (resolveAll lookup batch s).1.asked = s.asked ++ batch.map Partition.name := by
  induction batch generalizing s resolved with
  | nil => exact (List.append_nil s.asked).symm
  | cons p rest ih =>
    rw [resolveAll_cons] at hok ⊢
    split_ifs at hok ⊢
    obtain ⟨tail, htail, -⟩ := map_eq_ok_iff.1 hok
    rw [ih htail, asked_askMinor, List.append_assoc, List.singleton_append, List.map_cons]

/-- To attach a batch is to ask for its names, in order. -/
theorem asked_attach {lookup : Text → Answer} {s : Session} {disk : Text} {batch : List Partition}
    (hok : (s.attach (some lookup) disk batch).2 = none) :
    (s.attach (some lookup) disk batch).1.asked = s.asked ++ batch.map Partition.name := by
  rw [attach, ← Prod.mk.eta (p := resolveAll lookup batch s)] at hok ⊢
  cases hresolved : (resolveAll lookup batch s).2 with
  | error fault => simp [hresolved] at hok
  | ok resolved => exact (overlooks_asked.mergeInto _ _ _).trans (asked_resolveAll hresolved)

end Session

/-! ## The partition geometry -/

namespace Pass

variable {rule : NamingRule} {lookup : Text → Answer}

/-- A block asks for the names that the rule accepts in it, if it is in scope. -/
theorem asked_readBlock {b : Block} {s : Session}
    (hok : (readBlock rule (some lookup) b s).2 = none) :
    (readBlock rule (some lookup) b s).1.asked =
      s.asked ++ if s.isValid b.device then b.names rule else [] := by
  by_cases h : s.isValid b.device = true
  · rw [readBlock_of_valid h] at hok ⊢
    rw [Session.asked_attach hok, Block.map_name_partitions, Session.register_eq, if_pos h]
  · have hopen := openBlock_frame Source.partitionGeometry b.device s
    rw [readBlock, if_neg (by rwa [Session.isValid_congr hopen.1]),
      Session.overlooks_asked.openBlock, if_neg h, List.append_nil]

/-- Reading blocks notes the names of those in scope. -/
theorem asked_readBlocks {blocks : List Block} {s : Session}
    (hok : (readBlocks rule (some lookup) blocks s).2 = none) :
    (readBlocks rule (some lookup) blocks s).1.asked =
      s.asked ++ (kept s.isValid blocks).flatMap (Block.names rule) := by
  induction blocks generalizing s with
  | nil => exact (List.append_nil s.asked).symm
  | cons b blocks ih =>
    obtain ⟨hb, hrest⟩ := readBlocks_cons_isOk_iff.1 hok
    rw [readBlocks, goOn_of_isOk hb, ih hrest, asked_readBlock hb, (readBlock_frame hb).1,
      List.append_assoc]
    by_cases h : s.isValid b.device = true
    · rw [if_pos h, kept_cons_of_valid h, List.flatMap_cons]
    · rw [if_neg h, kept_cons_of_not_valid (by simpa using h), List.nil_append]

/-- A listing of partition geometry asks for the names that the rule accepts in it. -/
theorem asked_readPartitionGeometry {lines : List Text} {s : Session}
    (hok : (readPartitionGeometry rule (some lookup) lines s).2 = none) :
    (readPartitionGeometry rule (some lookup) lines s).1.asked =
      s.asked ++ acceptedNames rule s.isValid lines := by
  obtain ⟨⟨counts, hsession⟩, hfault⟩ :=
    readPartitionGeometry_agrees rule (some lookup) lines s
  rw [hsession]
  exact asked_readBlocks (hfault ▸ hok)

end Pass

/-! ## A collection -/

/-- Before the partition geometry, a collection asks for nothing. -/
theorem asked_gather (p : Provider) (timestamp : Int) : (gather p timestamp).1.asked = [] := by
  have htells : p.Tells fun _ => True := by
    constructor <;> intros <;> exact fun _ _ _ => trivial
  exact view_gather Session.overlooks_asked htells timestamp

/-- Nor does it ask for anything when it puts what it has in order. -/
theorem Session.asked_snapshot (s : Session) : s.snapshot.1.asked = s.asked :=
  overlooks_asked.snapshot s

end StorageInventory
