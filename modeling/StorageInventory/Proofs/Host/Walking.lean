import Mathlib.Tactic
import StorageInventory.Host.Tree
import StorageInventory.Proofs.Text.Pieces

/-!
# Walking to a file in a directory

A path that leads to a directory, however many links stand on the way, leads on to what is in it.
The file of a name in the directory is what the tree has at the place of the directory and the name;
where the tree has nothing, reading fails.

* `Path.components_join` — the components of a path that was joined,
* `Tree.walk_append` — a walk goes on where its first part ended,
* `Tree.LeadsTo` — a path leads to a directory,
* `Tree.LeadsTo.read_of_file`, `Tree.LeadsTo.read_of_missing` — reading a file of that directory.
-/

namespace StorageInventory

namespace Host

/-! ## Paths that were joined -/

namespace Path

/-- The pieces on both sides of a slash are those of the whole. -/
theorem pieces_append (a b : Text) : pieces (a ++ '/' :: b) = pieces a ++ pieces b := by
  rw [pieces, Text.fields_append, List.filter_append, pieces, pieces]

/-- A text that ends in a slash, seen as what stands before it. -/
theorem exists_eq_append_slash {path : Text} (h : (path.getLast? == some '/') = true) :
    ∃ front, path = front ++ ['/'] := by
  have hlast : '/' ∈ path.getLast? := by simpa using h
  exact ⟨path.dropLast, (List.dropLast_append_getLast? '/' hlast).symm⟩

variable {directory name : Text}

/-- A path that was joined is one of its parts or both, with a slash between them that either
belongs to the directory or not. -/
theorem join_cases (directory : Text) {name : Text} (h : isAbsolute name = false) :
    (directory = [] ∧ join directory name = name) ∨
      (∃ front, directory = front ++ ['/'] ∧ join directory name = front ++ '/' :: name) ∨
      (directory ≠ [] ∧ join directory name = directory ++ '/' :: name) := by
  rw [join, h, Bool.false_or]
  by_cases hnil : directory = []
  · exact .inl ⟨hnil, by simp [hnil]⟩
  · rw [if_neg (by simpa using hnil)]
    split
    · next hslash =>
      obtain ⟨front, rfl⟩ := exists_eq_append_slash hslash
      exact .inr (.inl ⟨front, rfl, by simp⟩)
    · exact .inr (.inr ⟨hnil, rfl⟩)

/-- The pieces of a joined path are those of its two parts. -/
theorem pieces_join (directory : Text) {name : Text} (h : isAbsolute name = false) :
    pieces (join directory name) = pieces directory ++ pieces name := by
  rcases join_cases directory h with ⟨rfl, hjoin⟩ | ⟨front, rfl, hjoin⟩ | ⟨-, hjoin⟩
  · rw [hjoin]
    rfl
  · have hnil : pieces [] = [] := rfl
    rw [hjoin, pieces_append, pieces_append, hnil, List.append_nil]
  · rw [hjoin, pieces_append]

/-- A joined path ends as its second part does. -/
theorem getLast?_join (directory : Text) {name : Text} (h : isAbsolute name = false)
    (hne : name ≠ []) : (join directory name).getLast? = name.getLast? := by
  obtain ⟨c, rest, rfl⟩ := List.exists_cons_of_ne_nil hne
  rcases join_cases directory h with ⟨-, hjoin⟩ | ⟨front, -, hjoin⟩ | ⟨-, hjoin⟩
  · rw [hjoin]
  · rw [hjoin, List.getLast?_append_cons, List.getLast?_cons_cons]
  · rw [hjoin, List.getLast?_append_cons, List.getLast?_cons_cons]

/-- A path that was joined has the pieces of the directory, and then the components of the name. -/
theorem components_join (directory : Text) {name : Text} (h : isAbsolute name = false)
    (hne : name ≠ []) : components (join directory name) = pieces directory ++ components name := by
  rw [components, components, pieces_join directory h, getLast?_join directory h hne,
    List.append_assoc]

/-- A joined path is absolute if its first part is. -/
theorem isAbsolute_join (directory : Text) {name : Text} (h : isAbsolute name = false) :
    isAbsolute (join directory name) = isAbsolute directory := by
  rcases join_cases directory h with ⟨rfl, hjoin⟩ | ⟨front, rfl, hjoin⟩ | ⟨hne, hjoin⟩
  · rw [hjoin, h]
    rfl
  · rw [hjoin]
    cases front <;> rfl
  · obtain ⟨c, rest, rfl⟩ := List.exists_cons_of_ne_nil hne
    rw [hjoin]
    rfl

/-- A name without a slash is a single component. -/
theorem components_of_not_mem (h : '/' ∉ name) (hne : name ≠ []) : components name = [name] := by
  have hlast : (name.getLast? == some '/') = false := by
    rw [beq_eq_false_iff_ne]
    exact fun hslash => h (List.mem_of_getLast? hslash)
  rw [components, pieces, Text.fields_of_not_mem h, hlast]
  simp [hne]

/-- A name without slashes is not absolute. -/
theorem isAbsolute_of_not_mem (h : '/' ∉ name) : isAbsolute name = false := by
  rw [isAbsolute, beq_eq_false_iff_ne]
  exact fun hslash => h (List.mem_of_mem_head? hslash)

/-- A path can be joined from the left or from the right. -/
theorem join_assoc (directory : Text) {middle : Text} (hmiddle : isAbsolute middle = false)
    (hne : middle ≠ []) (hlast : middle.getLast? ≠ some '/') {name : Text}
    (hname : isAbsolute name = false) :
    join (join directory middle) name = join directory (join middle name) := by
  have hinner : join middle name = middle ++ '/' :: name := by
    rw [join, hname, if_neg (by simpa using hne), if_neg (by simpa using hlast)]
  have habs : isAbsolute (join middle name) = false := by rw [isAbsolute_join middle hname, hmiddle]
  have hlastJoin : (join directory middle).getLast? ≠ some '/' := by
    rwa [getLast?_join directory hmiddle hne]
  have hneJoin : join directory middle ≠ [] := by
    intro hnil
    have hlength := congrArg List.getLast? hnil
    rw [getLast?_join directory hmiddle hne] at hlength
    exact hne (List.getLast?_eq_none_iff.1 hlength)
  have houter : join (join directory middle) name = join directory middle ++ '/' :: name := by
    rw [join, hname, if_neg (by simpa using hneJoin), if_neg (by simpa using hlastJoin)]
  rw [houter, join, join, hmiddle, habs, hinner]
  split_ifs <;> simp

end Path

/-! ## Walks -/

namespace Tree

variable {tree : Tree} {place : List Text}

/-- Nothing is at a place, unless it is the root, or the tree has something there or below. -/
theorem node?_eq_none_iff :
    tree.node? place = none ↔ place ≠ [] ∧ ∀ entry ∈ tree.nodes, ¬ place <+: entry.1 := by
  rw [node?]
  cases hlookup : tree.nodes.lookup place with
  | some node =>
    refine iff_of_false (by simp) fun h => ?_
    obtain ⟨before, after, hnodes, -⟩ := List.lookup_eq_some_iff.1 hlookup
    exact h.2 (place, node) (by simp [hnodes]) (List.prefix_refl _)
  | none => simp

/-- Nothing is below what is not there. -/
theorem node?_append_of_none (h : tree.node? place = none) (more : List Text) :
    tree.node? (place ++ more) = none := by
  rw [node?_eq_none_iff] at h ⊢
  refine ⟨fun hnil => h.1 (List.append_eq_nil_iff.1 hnil).1, fun entry hentry hbelow => ?_⟩
  exact h.2 entry hentry ((List.prefix_append place more).trans hbelow)

/-- What one component leads to from a place: the links that may still be taken, the place reached,
and the components that stand for it if it is a link. -/
def follow (tree : Tree) (links : Nat) (place : List Text) (name : Text) :
    Except SystemError (Nat × List Text × List Text) :=
  match tree.node? place with
  | some .directory =>
    if name = here || name = [] then .ok (links, place, [])
    else if name = above then .ok (links, place.dropLast, [])
    else if componentLimit < (Text.Utf8.encode name).length then .error .nameTooLong
    else match tree.node? (place ++ [name]) with
      | none => .error .noEntry
      | some (.link target) =>
        match links with
        | 0 => .error .linkLoop
        | links + 1 =>
          .ok (links, if Path.isAbsolute target then [] else place, Path.components target)
      | some _ => .ok (links, place ++ [name], [])
  | _ => .error .notDirectory

/-- A walk to something that exists follows its components one by one. -/
theorem walk_cons (tree : Tree) (links : Nat) (place : List Text) (name : Text)
    (rest : List Text) :
    tree.walk false links place (name :: rest) =
      (tree.follow links place name).bind fun (links, place, front) =>
        tree.walk false links place (front ++ rest) := by
  rw [walk, follow]
  rcases tree.node? place with _ | (bytes | _ | target)
  · rfl
  · rfl
  · simp only [Bool.false_and, Bool.false_eq_true, if_false]
    split_ifs
    · rfl
    · rfl
    · rfl
    · rcases tree.node? (place ++ [name]) with _ | (bytes | _ | target)
      · rfl
      · rfl
      · rfl
      · cases links <;> rfl
  · rfl

/-- A component either is no link, and then takes none, or takes one of the links. -/
theorem links_of_follow {links left : Nat} {place reached front : List Text} {name : Text}
    (h : tree.follow links place name = .ok (left, reached, front)) :
    (left = links ∧ front = []) ∨ links = left + 1 := by
  unfold follow at h
  split at h
  · split_ifs at h
    · simp only [Except.ok.injEq, Prod.mk.injEq] at h
      exact .inl ⟨h.1.symm, h.2.2.symm⟩
    · simp only [Except.ok.injEq, Prod.mk.injEq] at h
      exact .inl ⟨h.1.symm, h.2.2.symm⟩
    · split at h
      · simp at h
      · split at h
        · simp at h
        · simp only [Except.ok.injEq, Prod.mk.injEq] at h
          exact .inr (by omega)
      · simp only [Except.ok.injEq, Prod.mk.injEq] at h
        exact .inl ⟨h.1.symm, h.2.2.symm⟩
  · simp at h

/-- A walk goes on where its first part ended, with what is left of the links. -/
theorem walk_append {links : Nat} {parts reached : List Text}
    (h : tree.walk false links place parts = .ok reached) (more : List Text) :
    ∃ left, tree.walk false links place (parts ++ more) = tree.walk false left reached more := by
  -- the links that are left come first, since a link puts more components in front of the rest
  induction links using Nat.strong_induction_on generalizing place parts with
  | _ links ihLinks =>
    induction parts generalizing place with
    | nil =>
      rw [walk, Except.ok.injEq] at h
      exact ⟨links, by rw [List.nil_append, h]⟩
    | cons name rest ihParts =>
      rw [List.cons_append, walk_cons]
      rw [walk_cons] at h
      cases hfollow : tree.follow links place name with
      | error fault =>
        rw [hfollow] at h
        cases h
      | ok next =>
        obtain ⟨left, next, front⟩ := next
        rw [hfollow] at h
        change tree.walk false left next (front ++ rest) = .ok reached at h
        change ∃ last, tree.walk false left next (front ++ (rest ++ more)) = _
        rcases links_of_follow hfollow with ⟨rfl, rfl⟩ | hlinks
        · exact ihParts h
        · rw [← List.append_assoc]
          exact ihLinks left (by omega) h

/-! ## The files of a directory -/

/-- A name that an entry of a directory can have. -/
structure IsEntryName (name : Text) : Prop where
  ne_nil : name ≠ []
  ne_here : name ≠ here
  ne_above : name ≠ above
  noSlash : '/' ∉ name

/-- The system accepts the path of the name in a directory. -/
structure Fits (directory name : Text) : Prop where
  noNul : '\x00' ∉ Path.join directory name
  path : (Text.Utf8.encode (Path.join directory name)).length ≤ pathLimit
  component : (Text.Utf8.encode name).length ≤ componentLimit

variable {name : Text} {links : Nat}

/-- A step to an entry that is no link ends at the entry. -/
theorem follow_of_node (hplace : tree.node? place = some .directory) (hname : IsEntryName name)
    (hshort : (Text.Utf8.encode name).length ≤ componentLimit) {node : Node}
    (hnode : tree.node? (place ++ [name]) = some node) (hlink : ∀ target, node ≠ .link target) :
    tree.follow links place name = .ok (links, place ++ [name], []) := by
  have hplain : ¬ (decide (name = here) || decide (name = [])) = true := by
    simp [hname.ne_here, hname.ne_nil]
  rw [follow, hplace]
  dsimp only
  rw [if_neg hplain, if_neg hname.ne_above, if_neg (by omega), hnode]
  cases node with
  | link target => exact absurd rfl (hlink target)
  | file bytes => rfl
  | directory => rfl

/-- A step to an entry that is not there is an error. -/
theorem follow_of_missing (links : Nat) (hplace : tree.node? place = some .directory)
    (hname : IsEntryName name) (hnode : tree.node? (place ++ [name]) = none) :
    ∃ error, tree.follow links place name = .error error := by
  have hplain : ¬ (decide (name = here) || decide (name = [])) = true := by
    simp [hname.ne_here, hname.ne_nil]
  rw [follow, hplace]
  dsimp only
  rw [if_neg hplain, if_neg hname.ne_above, hnode]
  split_ifs
  · exact ⟨_, rfl⟩
  · exact ⟨_, rfl⟩

/-- A joined path starts where its first part does. -/
theorem start_join (tree : Tree) (directory : Text) (h : Path.isAbsolute name = false) :
    tree.start (Path.join directory name) = tree.start directory := by
  rw [start, start, Path.isAbsolute_join directory h]

/-- The path leads to a directory. -/
structure LeadsTo (tree : Tree) (path : Text) (place : List Text) : Prop where
  walk : tree.walk false linkLimit (tree.start path) (Path.pieces path) = .ok place
  isDirectory : tree.node? place = some .directory

namespace LeadsTo

variable {directory : Text}

/-- To walk to what a relative path leads to is to follow its components from the directory. -/
theorem walk_join (h : tree.LeadsTo directory place) {path : Text}
    (hrelative : Path.isAbsolute path = false) (hne : path ≠ []) :
    ∃ left, tree.walk false linkLimit (tree.start (Path.join directory path))
        (Path.components (Path.join directory path)) =
      tree.walk false left place (Path.components path) := by
  rw [tree.start_join directory hrelative, Path.components_join directory hrelative hne]
  exact walk_append h.walk (Path.components path)

/-- A path to a directory leads on to the directories in it. -/
theorem enter (h : tree.LeadsTo directory place) (hname : IsEntryName name)
    (hshort : (Text.Utf8.encode name).length ≤ componentLimit)
    (hnode : tree.node? (place ++ [name]) = some .directory) :
    tree.LeadsTo (Path.join directory name) (place ++ [name]) := by
  have hrelative := Path.isAbsolute_of_not_mem hname.noSlash
  have hpieces : Path.pieces name = [name] := by
    rw [Path.pieces, Text.fields_of_not_mem hname.noSlash]
    simp [hname.ne_nil]
  refine ⟨?_, hnode⟩
  obtain ⟨left, hwalk⟩ := walk_append h.walk [name]
  rw [tree.start_join directory hrelative, Path.pieces_join directory hrelative, hpieces, hwalk,
    walk_cons, follow_of_node h.isDirectory hname hshort hnode (by simp)]
  exact Tree.walk.eq_1 ..

/-- Reading a file of the directory gives its bytes. -/
theorem read_of_file (h : tree.LeadsTo directory place) (hname : IsEntryName name)
    (hfits : Fits directory name) {bytes : List UInt8}
    (hnode : tree.node? (place ++ [name]) = some (.file bytes)) :
    tree.read (Path.join directory name) = .ok (bytes ++ tree.added (place ++ [name])) := by
  have hrelative := Path.isAbsolute_of_not_mem hname.noSlash
  have hcomponents := Path.components_of_not_mem hname.noSlash hname.ne_nil
  obtain ⟨left, hwalk⟩ := h.walk_join hrelative hname.ne_nil
  -- the walk to the directory goes one step further, to the file
  have hreach : tree.walk false left place [name] = .ok (place ++ [name]) := by
    rw [walk_cons, follow_of_node h.isDirectory hname hfits.component hnode (by simp)]
    exact Tree.walk.eq_1 ..
  have hne : Path.join directory name ≠ [] := by
    intro hnil
    have hjoin := Path.components_join directory hrelative hname.ne_nil
    rw [hnil, hcomponents] at hjoin
    simp [Path.components, Path.pieces, Text.fields] at hjoin
  have hlocate : tree.locate (Path.join directory name) = .ok (place ++ [name]) := by
    rw [locate, withPath, hwalk, hcomponents, hreach, if_neg (by simpa using hfits.noNul),
      if_neg hne,
      if_neg (by have := hfits.path; omega)]
    rfl
  rw [Tree.read, hlocate]
  dsimp only
  rw [hnode]

/-- Where the directory has no entry of the name, the path of the name, or of anything below it,
leads nowhere. -/
theorem locate_of_missing (h : tree.LeadsTo directory place) (hname : IsEntryName name)
    (hnode : tree.node? (place ++ [name]) = none) {path : Text}
    (hrelative : Path.isAbsolute path = false) {rest : List Text}
    (hcomponents : Path.components path = name :: rest) :
    ∃ fault, tree.locate (Path.join directory path) = .error fault := by
  have hne : path ≠ [] := by
    rintro rfl
    simp [Path.components, Path.pieces, Text.fields] at hcomponents
  obtain ⟨left, hwalk⟩ := h.walk_join hrelative hne
  obtain ⟨error, hfollow⟩ := follow_of_missing left h.isDirectory hname hnode
  rw [locate, withPath, hwalk, hcomponents, walk_cons, hfollow]
  split_ifs
  · exact ⟨_, rfl⟩
  · exact ⟨_, rfl⟩
  · exact ⟨_, rfl⟩
  · exact ⟨_, rfl⟩

/-- Reading what leads nowhere fails. -/
theorem read_of_missing (h : tree.LeadsTo directory place) (hname : IsEntryName name)
    (hnode : tree.node? (place ++ [name]) = none) {path : Text}
    (hrelative : Path.isAbsolute path = false) {rest : List Text}
    (hcomponents : Path.components path = name :: rest) :
    ∃ fault, tree.read (Path.join directory path) = .error fault := by
  obtain ⟨fault, hlocate⟩ := h.locate_of_missing hname hnode hrelative hcomponents
  exact ⟨fault, by rw [Tree.read, hlocate]⟩

end LeadsTo

end Tree

end Host

end StorageInventory
