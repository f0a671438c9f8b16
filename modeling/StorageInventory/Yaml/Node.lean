import StorageInventory.Yaml.Lexer

/-!
# Nodes

The tokens of a document are grouped into nodes: scalars, sequences and mappings.  A missing node is
an empty plain scalar, and an alias is the node of its anchor.  A text is one document or none.
-/

namespace StorageInventory.Yaml

/-- What a document consists of.  A scalar is resolved by its form if it is plain and has no tag. -/
inductive Node where
  | scalar (text : Text) (isPlain : Bool) (tag : Option Text)
  | sequence (items : List Node) (tag : Option Text)
  | mapping (entries : List (Node × Node)) (tag : Option Text)

/-- A node that is missing. -/
def Node.missing : Node := .scalar [] true none

/-- The names that the handles of tags stand for, unless a directive says otherwise. -/
def standardHandles : List (Text × Text) :=
  [("!".toList, "!".toList), ("!!".toList, "tag:yaml.org,2002:".toList)]

/-- The most sequences and mappings that stand inside each other. -/
def depthLimit : Nat := 486

/-- The tokens still to be grouped, the error that a broken one stands for, the handles, the nodes
of the anchors so far, and how many sequences and mappings the next token stands in. -/
structure Feed where
  tokens : List Token
  error : LoadError
  handles : List (Text × Text) := standardHandles
  anchors : List (Text × Node) := []
  depth : Nat := 0

namespace Feed

/-- The next token does not fit; it may be one that nothing fits. -/
def refuse {α : Type} (feed : Feed) : Except LoadError α :=
  match feed.tokens with
  | .broken :: _ => .error feed.error
  | _ => .error .malformed

/-- The next token is one of the given ones. -/
def atAny (feed : Feed) (these : List Token) : Bool :=
  match feed.tokens with
  | [] => false
  | token :: _ => these.elem token

/-- The document or the whole input ends here. -/
def atEnd (feed : Feed) : Bool :=
  match feed.tokens with
  | [] | .directive _ :: _ | .documentStart :: _ | .documentEnd :: _ => true
  | _ => false

/-- Take the next token if it is the given one. -/
def take? (feed : Feed) (token : Token) : Option Feed :=
  match feed.tokens with
  | t :: rest => if t = token then some { feed with tokens := rest } else none
  | [] => none

/-- Go into a sequence or mapping, whose inside starts with the given tokens. -/
def enter (feed : Feed) (tokens : List Token) : Except LoadError Feed :=
  if depthLimit ≤ feed.depth then .error (.fault .nestingTooDeep)
  else .ok { feed with tokens, depth := feed.depth + 1 }

/-- Go past the comma in front of an item; the first one has none. -/
def passComma (feed : Feed) (isFirst : Bool) : Except LoadError Feed :=
  if isFirst then .ok feed
  else match feed.take? .flowEntry with
    | some feed => .ok feed
    | none => feed.refuse

/-- The full name of a tag, unless its handle is unknown. -/
def tagName (feed : Feed) (tag : Tag) : Except LoadError Text :=
  match tag.handle with
  | none => .ok tag.name
  | some handle =>
    match feed.handles.lookup handle with
    | some stem => .ok (stem ++ tag.name)
    | none => .error .malformed

/-- Take the anchor and the tag in front of a node, in either order. -/
def takeProperties (feed : Feed) : Except LoadError (Option Text × Option Text × Feed) :=
  match feed.tokens with
  | .anchor a :: .tag t :: rest | .tag t :: .anchor a :: rest =>
    (feed.tagName t).map fun name => (some a, some name, { feed with tokens := rest })
  | .anchor a :: rest => .ok (some a, none, { feed with tokens := rest })
  | .tag t :: rest =>
    (feed.tagName t).map fun name => (none, some name, { feed with tokens := rest })
  | _ => .ok (none, none, feed)

end Feed

/-- Where a node stands: between brackets, in a block, or in a block where a sequence need not be
indented. -/
inductive Place where
  | flow
  | block
  | loose
  deriving DecidableEq

mutual

/-- Take a node. -/
def takeNode : Nat → Place → Feed → Except LoadError (Node × Feed)
  | 0, _, _ => .error .malformed
  | fuel + 1, place, feed =>
    match feed.tokens with
    | .alias name :: rest =>
      match feed.anchors.lookup name with
      | some node => .ok (node, { feed with tokens := rest })
      | none => .error .malformed
    | _ => do
      let (anchor, tag, feed) ← feed.takeProperties
      let hasProperties := anchor.isSome || tag.isSome
      let depth := feed.depth
      let (node, feed) ←
        match feed.tokens with
        | .blockEntry :: _ =>
          if place = .loose then do
            let (items, feed) ← takeLooseItems fuel (← feed.enter feed.tokens)
            pure (Node.sequence items tag, feed)
          else if hasProperties then .ok (.scalar [] true tag, feed)
          else feed.refuse
        | .scalar text isPlain :: rest =>
          .ok (.scalar text isPlain tag, { feed with tokens := rest })
        | .flowSequenceStart :: rest => do
          let (items, feed) ← takeFlowItems fuel true (← feed.enter rest)
          pure (.sequence items tag, feed)
        | .flowMappingStart :: rest => do
          let (entries, feed) ← takeFlowEntries fuel true (← feed.enter rest)
          pure (.mapping entries tag, feed)
        | .sequenceStart :: rest =>
          if place = .flow then feed.refuse
          else do
            let (items, feed) ← takeItems fuel (← feed.enter rest)
            pure (.sequence items tag, feed)
        | .mappingStart :: rest =>
          if place = .flow then feed.refuse
          else do
            let (entries, feed) ← takeEntries fuel (← feed.enter rest)
            pure (.mapping entries tag, feed)
        | .broken :: _ => feed.refuse
        | _ => if hasProperties then .ok (.scalar [] true tag, feed) else feed.refuse
      let feed := { feed with depth }
      match anchor with
      | none => return (node, feed)
      | some name =>
        if (feed.anchors.lookup name).isSome then throw .malformed
        else return (node, { feed with anchors := (name, node) :: feed.anchors })

/-- Take a node unless one of the given tokens comes next. -/
def takeNodeUnless : Nat → Place → List Token → Feed → Except LoadError (Node × Feed)
  | 0, _, _, _ => .error .malformed
  | fuel + 1, place, stops, feed =>
    if feed.atAny stops || feed.tokens.isEmpty then .ok (.missing, feed)
    else takeNode fuel place feed

/-- The items of an indented sequence. -/
def takeItems : Nat → Feed → Except LoadError (List Node × Feed)
  | 0, _ => .error .malformed
  | fuel + 1, feed =>
    match feed.tokens with
    | .blockEntry :: rest => do
      let (item, feed) ←
        takeNodeUnless fuel .block [.blockEntry, .blockEnd] { feed with tokens := rest }
      let (items, feed) ← takeItems fuel feed
      return (item :: items, feed)
    | .blockEnd :: rest => .ok ([], { feed with tokens := rest })
    | _ => feed.refuse

/-- The items of a sequence that is not indented; the mapping around it goes on after them. -/
def takeLooseItems : Nat → Feed → Except LoadError (List Node × Feed)
  | 0, _ => .error .malformed
  | fuel + 1, feed =>
    match feed.tokens with
    | .blockEntry :: rest => do
      let (item, feed) ←
        takeNodeUnless fuel .block [.blockEntry, .key, .value, .blockEnd]
          { feed with tokens := rest }
      let (items, feed) ← takeLooseItems fuel feed
      return (item :: items, feed)
    | _ => .ok ([], feed)

/-- The entries of an indented mapping. -/
def takeEntries : Nat → Feed → Except LoadError (List (Node × Node) × Feed)
  | 0, _ => .error .malformed
  | fuel + 1, feed =>
    match feed.tokens with
    | .key :: rest => do
      let stops : List Token := [.key, .value, .blockEnd]
      let (key, feed) ← takeNodeUnless fuel .loose stops { feed with tokens := rest }
      let (value, feed) ←
        match feed.take? .value with
        | some feed => takeNodeUnless fuel .loose stops feed
        | none => .ok (.missing, feed)
      let (entries, feed) ← takeEntries fuel feed
      return ((key, value) :: entries, feed)
    | .blockEnd :: rest => .ok ([], { feed with tokens := rest })
    | _ => feed.refuse

/-- The value after a key between brackets, which may be missing. -/
def takeFlowValue : Nat → Token → Feed → Except LoadError (Node × Feed)
  | 0, _, _ => .error .malformed
  | fuel + 1, close, feed =>
    match feed.take? .value with
    | some feed => takeNodeUnless fuel .flow [.flowEntry, close] feed
    | none => .ok (.missing, feed)

/-- The items between square brackets; a key among them is a mapping with one entry. -/
def takeFlowItems : Nat → (isFirst : Bool) → Feed → Except LoadError (List Node × Feed)
  | 0, _, _ => .error .malformed
  | fuel + 1, isFirst, feed =>
    match feed.take? .flowSequenceEnd with
    | some feed => .ok ([], feed)
    | none => do
      let feed ← feed.passComma isFirst
      match feed.take? .flowSequenceEnd with
      | some feed => return ([], feed)
      | none =>
        let (item, feed) ←
          match feed.take? .key with
          | some feed => do
            let (key, feed) ←
              takeNodeUnless fuel .flow [.value, .flowEntry, .flowSequenceEnd] feed
            let (value, feed) ← takeFlowValue fuel .flowSequenceEnd feed
            pure (Node.mapping [(key, value)] none, feed)
          | none => takeNode fuel .flow feed
        let (items, feed) ← takeFlowItems fuel false feed
        return (item :: items, feed)

/-- The entries between curly brackets. -/
def takeFlowEntries : Nat → (isFirst : Bool) → Feed → Except LoadError (List (Node × Node) × Feed)
  | 0, _, _ => .error .malformed
  | fuel + 1, isFirst, feed =>
    match feed.take? .flowMappingEnd with
    | some feed => .ok ([], feed)
    | none => do
      let feed ← feed.passComma isFirst
      match feed.take? .flowMappingEnd with
      | some feed => return ([], feed)
      | none =>
        let (entry, feed) ←
          match feed.take? .key with
          | some feed => do
            let (key, feed) ←
              takeNodeUnless fuel .flow [.value, .flowEntry, .flowMappingEnd] feed
            let (value, feed) ← takeFlowValue fuel .flowMappingEnd feed
            pure ((key, value), feed)
          | none => do
            let (key, feed) ← takeNode fuel .flow feed
            pure ((key, Node.missing), feed)
        let (entries, feed) ← takeFlowEntries fuel false feed
        return (entry :: entries, feed)

end

/-- The node at the beginning of a document, missing if the document ends there. -/
def takeContent (fuel : Nat) (feed : Feed) : Except LoadError (Node × Feed) :=
  if feed.atEnd then .ok (.missing, feed) else takeNode fuel .block feed

/-- Take a document and whatever marks its end; nothing else may follow. -/
def takeDocument (feed : Feed) : Except LoadError Node := do
  let (node, feed) ← takeContent (4 * feed.tokens.length + 8) feed
  let feed := { feed with tokens := feed.tokens.dropWhile (· = Token.documentEnd) }
  if feed.tokens.isEmpty then return node else feed.refuse

/-- The major version of the language that documents may ask for. -/
def knownVersion : Nat := 1

/-- Take the directives in front of a document and the marker behind them; `declared` are the
handles so far, and `hasVersion` says whether the version was told. -/
def takeDirectives (feed : Feed) :
    (hasVersion : Bool) → (declared : List (Text × Text)) → List Token → Except LoadError Feed
  | hasVersion, declared, .directive d :: rest =>
    match d with
    | .version major =>
      if hasVersion || major ≠ knownVersion then .error .malformed
      else takeDirectives feed true declared rest
    | .handle name stem =>
      if (declared.lookup name).isSome then .error .malformed
      else takeDirectives feed hasVersion ((name, stem) :: declared) rest
    | .reserved => takeDirectives feed hasVersion declared rest
  | _, declared, .documentStart :: rest =>
    .ok { feed with tokens := rest, handles := declared ++ standardHandles }
  | _, _, rest => { feed with tokens := rest }.refuse

/-- The node of a document; none if there is no document.  A document may be marked at its
beginning, after directives; one that is not must start with its content. -/
def nodeOf (tokens : List Token) (error : LoadError) : Except LoadError (Option Node) :=
  let feed : Feed := { tokens, error }
  match tokens with
  | [] => .ok none
  | .documentEnd :: _ => .error .malformed
  | .directive _ :: _ | .documentStart :: _ => do
    let feed ← takeDirectives feed false [] tokens
    some <$> takeDocument feed
  | _ => some <$> takeDocument feed

end StorageInventory.Yaml
