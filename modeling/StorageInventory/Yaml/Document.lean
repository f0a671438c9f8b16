import StorageInventory.Settings.Configuration
import StorageInventory.Text.Blocks
import StorageInventory.Yaml.Node
import StorageInventory.Yaml.Scalar

/-!
# Documents

The nodes of a document give values.  The keys of a mapping must be scalars, a later entry with the
same key replaces an earlier one, and the entries that a mapping merges come before its own.  A text
without a document is null.

If several scalars of a document are wrong, `Node.check` says which of them is told of.
-/

namespace StorageInventory.Yaml

open Settings (Value)

/-! ## Values of nodes -/

/-- The name of a standard tag. -/
def standard (name : String) : Text := ("tag:yaml.org,2002:" ++ name).toList

/-- The value of a scalar that is resolved by its form. -/
def formValue (text : Text) : Except LoadError Value :=
  match resolvePlain text with
  | .ok (.value v) => .ok v
  | .ok _ => .error .malformed
  | .error fault => .error (.fault fault)

/-- The value of a scalar that is no key. -/
def scalarValue (text : Text) (isPlain : Bool) (tag : Option Text) : Except LoadError Value :=
  match tag with
  | none => if isPlain then formValue text else .ok (.text text)
  | some tag =>
    if tag = formTag then formValue text
    else match scalarTags.find? (standard ·.1 = tag) with
      | some (_, read) => (read text).mapError .fault
      | none => .error .malformed

/-- What a key node is: the mark for merging, or a value. -/
inductive KeyOf where
  | merge
  | value (v : Value)

/-- A scalar is resolved by its form. -/
def isFormed (isPlain : Bool) (tag : Option Text) : Bool :=
  (tag = none && isPlain) || tag = some formTag

/-- What a scalar key is. -/
def scalarKey (text : Text) (isPlain : Bool) (tag : Option Text) : Except LoadError KeyOf :=
  match isFormed isPlain tag, resolvePlain text with
  | true, .ok .merge => .ok .merge
  | true, .ok .default => .ok (.value (.text text))
  | _, _ => (scalarValue text isPlain tag).map .value

/-- A scalar key that marks a merge. -/
def Node.isMerge : Node → Bool
  | .scalar text isPlain tag =>
    match isFormed isPlain tag, resolvePlain text with
    | true, .ok .merge => true
    | _, _ => false
  | _ => false

/-- The tag, if there is one, is the standard one of the name. -/
def hasTag (name : String) (tag : Option Text) : Bool :=
  tag = none || tag = some formTag || tag = some (standard name)

/-- The tag, if there is one, is that of a list or of a mapping. -/
def isNesting (tag : Option Text) : Bool := hasTag "seq" tag || hasTag "map" tag

mutual

/-- The entries of a mapping with those that it merges in front: the entries of a merged mapping, or
those of a list of mappings, the last one first. -/
def flatten : List (Node × Node) → Except LoadError (List (Node × Node) × List (Node × Node))
  | [] => .ok ([], [])
  | (key, value) :: rest =>
    if key.isMerge then
      match mergedBy value with
      | .error error => .error error
      | .ok brought => (flatten rest).map fun (merged, own) => (brought ++ merged, own)
    else (flatten rest).map fun (merged, own) => (merged, (key, value) :: own)

/-- The entries that a merged node brings. -/
def mergedBy : Node → Except LoadError (List (Node × Node))
  | .mapping entries _ => (flatten entries).map fun (merged, own) => merged ++ own
  | .sequence items _ => mergedByAll items
  | .scalar .. => .error .malformed

/-- The entries that a merged list of mappings brings. -/
def mergedByAll : List Node → Except LoadError (List (Node × Node))
  | [] => .ok []
  | .mapping entries _ :: rest =>
    match flatten entries with
    | .error error => .error error
    | .ok (merged, own) => (mergedByAll rest).map fun more => more ++ (merged ++ own)
  | _ :: _ => .error .malformed

end

/-- The entries of a mapping, with those that it merges in front. -/
def allEntries (entries : List (Node × Node)) : Except LoadError (List (Node × Node)) :=
  (flatten entries).map fun (merged, own) => merged ++ own

/-! ## Which fault comes first

The values of a document are made level by level: the scalars of a list or mapping in their order,
and the lists and mappings inside it only after all of its own level. -/

/-- What a node needs before its inside is looked at: the error, or the node itself if it has an
inside. -/
def Node.enter : Node → Except LoadError (List Node)
  | .scalar text isPlain tag => (scalarValue text isPlain tag).map fun _ => []
  | .sequence items tag => if isNesting tag then .ok [.sequence items tag] else .error .malformed
  | .mapping entries tag => if isNesting tag then .ok [.mapping entries tag] else .error .malformed

/-- The key of an entry, which must be a scalar. -/
def Node.key : Node → Except LoadError KeyOf
  | .scalar text isPlain tag => scalarKey text isPlain tag
  | _ => .error .malformed

/-- Look at one level: the nodes whose inside is to be looked at next.  Only now a tag must be the
one for the form of the node. -/
def Node.level : Node → Except LoadError (List Node)
  | .scalar .. => .ok []
  | .sequence items tag =>
    if hasTag "seq" tag then (items.mapM Node.enter).map List.flatten else .error .malformed
  | .mapping entries tag => do
    if !hasTag "map" tag then throw .malformed
    let all ← allEntries entries
    let nested ← all.mapM fun (key, value) => do
      let _ ← key.key
      value.enter
    return nested.flatten

/-- Look at nodes level by level; the first argument bounds the number of levels. -/
def checkLevels : Nat → List Node → Except LoadError Unit
  | 0, _ => .ok ()
  | fuel + 1, nodes => do
    let nested ← nodes.mapM Node.level
    if nested.flatten.isEmpty then return () else checkLevels fuel nested.flatten

mutual

/-- The number of levels of a node. -/
def Node.depth : Node → Nat
  | .scalar .. => 0
  | .sequence items _ => itemsDepth items + 1
  | .mapping entries _ => entriesDepth entries + 1

/-- The number of levels of the items of a sequence. -/
def itemsDepth : List Node → Nat
  | [] => 0
  | item :: rest => max item.depth (itemsDepth rest)

/-- The number of levels of the entries of a mapping. -/
def entriesDepth : List (Node × Node) → Nat
  | [] => 0
  | (key, value) :: rest => max (max key.depth value.depth) (entriesDepth rest)

end

/-- The first error of a document. -/
def Node.check (node : Node) : Except LoadError Unit := do
  checkLevels node.depth (← node.enter)

/-! ## Making the values -/

/-- The entries that a merged value brings. -/
def mergedEntries : Value → Option (List (Value × Value))
  | .mapping entries => some entries
  | .list items =>
    items.foldr (fun item acc =>
      match item, acc with
      | .mapping entries, some rest => some (rest ++ entries)
      | _, _ => none) (some [])
  | _ => none

mutual

/-- The value of a node. -/
def Node.toValue : Node → Except LoadError Value
  | .scalar text isPlain tag => scalarValue text isPlain tag
  | .sequence items _ =>
    match itemValues items with
    | .ok values => .ok (.list values)
    | .error error => .error error
  | .mapping entries _ =>
    match entryValues entries with
    | .ok (merged, own) =>
      .ok (.mapping ((merged ++ own).foldl (fun done (k, v) => Value.putEntry done k v) []))
    | .error error => .error error

/-- The values of the items of a sequence. -/
def itemValues : List Node → Except LoadError (List Value)
  | [] => .ok []
  | item :: rest =>
    match item.toValue with
    | .error error => .error error
    | .ok value => (itemValues rest).map (value :: ·)

/-- The entries of a mapping: those that it merges, and its own. -/
def entryValues :
    List (Node × Node) → Except LoadError (List (Value × Value) × List (Value × Value))
  | [] => .ok ([], [])
  | (key, value) :: rest =>
    match key.key, value.toValue with
    | .error error, _ => .error error
    | _, .error error => .error error
    | .ok .merge, .ok value =>
      match mergedEntries value with
      | none => .error .malformed
      | some entries => (entryValues rest).map fun (merged, own) => (entries ++ merged, own)
    | .ok (.value key), .ok value =>
      (entryValues rest).map fun (merged, own) => (merged, (key, value) :: own)

end

/-- The value of a document. -/
def load (document : Readable) : Except LoadError Value := do
  let (tokens, error) := tokensOf document
  match ← nodeOf tokens error with
  | none => return .null
  | some node =>
    node.check
    node.toValue

/-- The loader of configurations: the value of a document in UTF-8, which is read in blocks.  It
does not give reasons. -/
def loadBytes : Settings.Loader := fun bytes =>
  let (blocks, piece) := Text.readBlocks bytes
  match load (.ofBlocks blocks (piece.map .undecodable)) with
  | .ok value => .ok value
  | .error .malformed => .error (.malformed [])
  | .error (.fault fault) => .error (.other fault)

end StorageInventory.Yaml
