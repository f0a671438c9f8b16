import StorageInventory.Fault
import StorageInventory.Text.Basic
import StorageInventory.Text.Utf8

/-!
# The file tree

The files of a host, the paths that lead to them, and what the system does with paths.

* `Tree.walk` follows a path the way the system does when it opens a file,
* `Tree.makeDirectories` and `Tree.openForAppend` change the tree,
* `Tree.realPath` is the canonical path of a path.
-/

namespace StorageInventory.Host

/-!
## Paths

Paths are texts; their components are the pieces between slashes.  A slash at the end asks for a
directory and is kept as an empty component.
-/

/-- The component that stands for the directory itself. -/
def here : Text := ['.']

/-- The component that stands for the directory above. -/
def above : Text := ['.', '.']

namespace Path

/-- A path from the root. -/
def isAbsolute (path : Text) : Bool := path.head? == some '/'

/-- The pieces between slashes. -/
def pieces (path : Text) : List Text := (Text.fields '/' path).filter (· ≠ [])

/-- The components of a path. -/
def components (path : Text) : List Text :=
  pieces path ++ if path.getLast? == some '/' then [[]] else []

/-- The path of `name` seen from a directory; an absolute `name` stays as it is. -/
def join (directory name : Text) : Text :=
  if isAbsolute name || directory = [] then name
  else if directory.getLast? == some '/' then directory ++ name
  else directory ++ '/' :: name

/-- The absolute path with the given components. -/
def ofComponents : List Text → Text
  | [] => ['/']
  | parts => parts.flatMap ('/' :: ·)

/-- What follows the last slash of a path. -/
def last (path : Text) : Text := (path.reverse.takeWhile (· ≠ '/')).reverse

/-- The directory part of a path: all before the last slash. -/
def directory (path : Text) : Text :=
  let head := path.take (path.length - (last path).length)
  if head.all (· = '/') then head else (head.reverse.dropWhile (· = '/')).reverse

/-- Components without `.` and empty ones, and with `..` taken back against the component before
it. -/
def normalize (parts : List Text) : List Text :=
  parts.foldl (fun stack part =>
    if part = here || part = [] then stack
    else if part = above then stack.dropLast
    else stack ++ [part]) []

/-- An absolute path with its components normalized.  Exactly two slashes at the beginning stay,
since they may have a meaning of their own; any other number of them is one. -/
def normalized (path : Text) : Text :=
  let root : Text := if (path.takeWhile (· = '/')).length = 2 then ['/', '/'] else ['/']
  root ++ ['/'].intercalate (normalize (pieces path))

end Path

/-!
## Trees

A tree holds files, directories and symbolic links by their absolute paths; a path above one that is
held is a directory.  `Tree.walk` follows a path the way the system does when it opens a file:
through symbolic links, of which it takes at most forty, and with an error where a component is
missing or is no directory.

Directories can be made, files opened for writing at their ends, and bytes added to them.
-/

/-- What a path can hold. -/
inductive Node where
  | file (bytes : List UInt8)
  | directory
  | link (target : Text)

/-- Files, directories and links by the components of their absolute paths, and the working
directory. -/
structure Tree where
  nodes : List (List Text × Node) := []
  workingDirectory : List Text := []
  /-- What has been added to the ends of files. -/
  added : List Text → List UInt8 := fun _ => []
  /-- Where nothing may be made or written. -/
  isReadOnly : List Text → Bool := fun _ => false

namespace Tree

/-- What is at a place. -/
def node? (tree : Tree) (place : List Text) : Option Node :=
  match tree.nodes.lookup place with
  | some node => some node
  | none => if place = [] || tree.nodes.any (fun (p, _) => place.isPrefixOf p) then some .directory
      else none

/-- The most symbolic links that one walk takes. -/
def linkLimit : Nat := 40

/-- The most bytes in a component. -/
def componentLimit : Nat := 255

/-- The most bytes in a path. -/
def pathLimit : Nat := 4095

/-- Follow the remaining components from an existing directory; the first argument says whether the
last component may be missing, because it is to be made as a file, and the second is the number of
links that may still be taken. -/
def walk (tree : Tree) (mayMake : Bool) (links : Nat) (place rest : List Text) :
    Except SystemError (List Text) :=
  match rest with
  | [] => .ok place
  | name :: rest =>
    match tree.node? place with
    | some .directory =>
      if name = here || name = [] then tree.walk mayMake links place rest
      else if name = above then tree.walk mayMake links place.dropLast rest
      else if mayMake && rest = [[]] then .error .isDirectory
      else if componentLimit < (Text.Utf8.encode name).length then .error .nameTooLong
      else match tree.node? (place ++ [name]) with
        | none => if mayMake && rest = [] then .ok (place ++ [name]) else .error .noEntry
        | some (.link target) =>
          match links with
          | 0 => .error .linkLoop
          | links + 1 =>
            tree.walk mayMake links (if Path.isAbsolute target then [] else place)
              (Path.components target ++ rest)
        | some _ => tree.walk mayMake links (place ++ [name]) rest
    | _ => .error .notDirectory
  termination_by (links, rest.length)

/-- Where a path starts. -/
def start (tree : Tree) (path : Text) : List Text :=
  if Path.isAbsolute path then [] else tree.workingDirectory

/-- The absolute path of a path, by its components alone. -/
def absolute (tree : Tree) (path : Text) : Text :=
  Path.normalized (Path.join (Path.ofComponents tree.workingDirectory) path)

/-- Do something with a path that the system accepts as one. -/
def withPath {α : Type} (path : Text) (act : Except SystemError α) : Except Fault α :=
  if path.elem '\x00' then .error .nulInPath
  else if path = [] then .error (.system .noEntry path)
  else if pathLimit < (Text.Utf8.encode path).length then .error (.system .nameTooLong path)
  else act.mapError (.system · path)

/-- The place that a path leads to. -/
def locate (tree : Tree) (path : Text) : Except Fault (List Text) :=
  withPath path (tree.walk false linkLimit (tree.start path) (Path.components path))

/-- Something is at the path. -/
def has (tree : Tree) (path : Text) : Bool := (tree.locate path).isOk

/-- A directory is at the path. -/
def hasDirectory (tree : Tree) (path : Text) : Bool :=
  match tree.locate path with
  | .ok place =>
    match tree.node? place with
    | some .directory => true
    | _ => false
  | .error _ => false

/-- The bytes of the file at a path. -/
def read (tree : Tree) (path : Text) : Except Fault (List UInt8) :=
  match tree.locate path with
  | .error fault => .error fault
  | .ok place =>
    match tree.node? place with
    | some (.file bytes) => .ok (bytes ++ tree.added place)
    | some .directory => .error (.system .isDirectory path)
    | _ => .error (.system .noEntry path)

/-- The names in the directory at a path. -/
def list (tree : Tree) (path : Text) : Except Fault (List Text) :=
  match tree.locate path with
  | .error .nulInPath => .error .nulInDirectory
  | .error fault => .error fault
  | .ok place =>
    match tree.node? place with
    | some .directory =>
      .ok (tree.nodes.filterMap (fun (p, _) =>
        if place.isPrefixOf p then p[place.length]? else none)).eraseDups
    | _ => .error (.system .notDirectory path)

/-! ### Changing the tree -/

/-- Put a node at a place. -/
def set (tree : Tree) (place : List Text) (node : Node) : Tree :=
  { tree with nodes := tree.nodes.filter (·.1 ≠ place) ++ [(place, node)] }

/-- Add bytes to the end of the file at a place. -/
def append (tree : Tree) (place : List Text) (bytes : Unit → List UInt8) : Tree :=
  { tree with added := fun p => tree.added p ++ if p = place then bytes () else [] }

/-- The directory in which a path is to be made, and its name there; none for a path that can only
lead to something that exists. -/
def locateNew (tree : Tree) (path : Text) : Except SystemError (Option (List Text × Text)) := do
  let parts := Path.pieces path
  let parent ← tree.walk false linkLimit (tree.start path) parts.dropLast
  match tree.node? parent, parts.getLast? with
  | some .directory, some name =>
    if name = here || name = above then return none
    else if componentLimit < (Text.Utf8.encode name).length then throw .nameTooLong
    else return some (parent, name)
  | some .directory, none => return none
  | _, _ => throw .notDirectory

/-- Make a directory, in one that exists. -/
def makeDirectory (tree : Tree) (path : Text) : Except Fault Tree :=
  withPath path <| do
    match ← tree.locateNew path with
    | none => throw .exists
    | some (parent, name) =>
      let place := parent ++ [name]
      if (tree.node? place).isSome then throw .exists
      else if tree.isReadOnly parent then throw .accessDenied
      else return tree.set place .directory

/-- A fault that says that something exists already. -/
def isExists : Fault → Bool
  | .system .exists _ => true
  | _ => false

/-- Make a directory and those above it, if they are missing.  What stands in the way counts only if
it is no directory; above the last component it does not count at all, and a last component that
stands for the directory itself asks for nothing more.  The first argument bounds the length of the
path. -/
def makeDirectoriesFrom : Nat → Tree → Text → Except Fault Tree
  | 0, tree, _ => .ok tree
  | fuel + 1, tree, path =>
    let isClosed := Path.last path = []
    let inner := if isClosed then Path.directory path else path
    let head := Path.directory inner
    let tail := Path.last inner
    let isDeep := head ≠ [] && tail ≠ [] && !tree.has head
    let above : Except Fault Tree :=
      if isDeep then
        match makeDirectoriesFrom fuel tree head with
        | .error fault => if isExists fault then .ok tree else .error fault
        | result => result
      else .ok tree
    match above with
    | .error fault => .error fault
    | .ok tree =>
      if isDeep && tail = here then .ok tree
      else match tree.makeDirectory path with
        | .ok tree => .ok tree
        | .error fault => if tree.hasDirectory path then .ok tree else .error fault

/-- Make the directories of a path that are missing. -/
def makeDirectories (tree : Tree) (path : Text) : Except Fault Tree :=
  makeDirectoriesFrom (path.length + 1) tree path

/-- Open a file for adding to its end: the tree in which it exists, and its place.  A link that
leads nowhere is followed, and the file is made there. -/
def openForAppend (tree : Tree) (path : Text) : Except Fault (Tree × List Text) :=
  withPath path <| do
    let place ← tree.walk true linkLimit (tree.start path) (Path.components path)
    match tree.node? place with
    | some (.file _) => if tree.isReadOnly place then throw .accessDenied else return (tree, place)
    | none =>
      if tree.isReadOnly place.dropLast then throw .accessDenied
      else return (tree.set place (.file []), place)
    | _ => throw .isDirectory

end Tree

/-!
## Canonical paths

The canonical path of a path has no links: they are followed as far as they lead somewhere, and what
does not exist is kept as it is written.  The path is built up as text, so that two spellings of one
link are two links; a link that comes up again while it is being followed leads to itself, and then
the rest of every path on the way is kept as it is written.
-/

/-- A resolution under way: the path reached, the links met so far with the paths that they led to
(`none` while one is being followed), and whether a link led to itself. -/
structure Resolution where
  path : Text
  seen : List (Text × Option Text) := []
  isCut : Bool := false

namespace Tree

/-- The target of the link at a path, if there is a link. -/
def linkAt? (tree : Tree) (path : Text) : Option Text :=
  match withPath path (tree.locateNew path) with
  | .ok (some (parent, name)) =>
    match tree.node? (parent ++ [name]) with
    | some (.link target) => some target
    | _ => none
  | _ => none

/-- The directory above the path reached. -/
def upward (path : Text) : Text :=
  if path = [] then above
  else
    let head := Path.directory path
    if Path.last path = above then Path.join (Path.join head above) above else head

/-- Follow the pieces of a text from the path reached, as far as links lead somewhere; the first
argument bounds the nesting of links, and the second the length of the text. -/
def resolveFrom (tree : Tree) (depth fuel : Nat) (r : Resolution) (rest : Text) : Resolution :=
  match fuel with
  | 0 => r
  | fuel + 1 =>
    if rest = [] then r
    else
      let name := rest.takeWhile (· ≠ '/')
      let rest := rest.drop (name.length + 1)
      if name = [] || name = here then tree.resolveFrom depth fuel r rest
      else if name = above then
        tree.resolveFrom depth fuel { r with path := upward r.path } rest
      else
        let next := Path.join r.path name
        match tree.linkAt? next with
        | none => tree.resolveFrom depth fuel { r with path := next } rest
        | some target =>
          let cut : Resolution := { r with path := Path.join next rest, isCut := true }
          match r.seen.lookup next with
          | some (some known) => tree.resolveFrom depth fuel { r with path := known } rest
          | some none => cut
          | none =>
            match depth with
            | 0 => cut
            | inside + 1 =>
              let seen := (next, none) :: r.seen
              let inner :=
                if Path.isAbsolute target then
                  tree.resolveFrom inside target.length { path := ['/'], seen } (target.drop 1)
                else tree.resolveFrom inside target.length { path := r.path, seen } target
              if inner.isCut then { inner with path := Path.join inner.path rest }
              else
                tree.resolveFrom (inside + 1) fuel
                  { inner with seen := (next, some inner.path) :: inner.seen } rest
  termination_by (depth, fuel)

/-- The most spellings of the links of a tree that a resolution can meet. -/
def resolutionDepth (tree : Tree) : Nat :=
  (tree.nodes.length + 1) * (tree.workingDirectory.length + 3)

/-- The canonical absolute path. -/
def realPath (tree : Tree) (path : Text) : Text :=
  let start : Resolution := { path := if Path.isAbsolute path then ['/'] else [] }
  let rest := if Path.isAbsolute path then path.drop 1 else path
  tree.absolute (tree.resolveFrom tree.resolutionDepth (rest.length + 1) start rest).path

end Tree

end StorageInventory.Host
