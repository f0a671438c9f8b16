import StorageInventory.Calendar
import StorageInventory.Fault
import StorageInventory.Number.Writing
import StorageInventory.Text.Printable

/-!
# Configuration values

A configuration is a tree of mappings, lists and scalars.  The keys of a mapping are values too,
kept in the order of the document.  A loader can also give values of other kinds; of such a value
only what comes of using it is known.

* `Value.isTruthy` — neither null, zero, false nor empty,
* `Value.toText` and `Value.shown` write a value for a message,
* `Value.toInteger` reads a value as a whole number,
* `Value.toPath`, `Value.toTemplate` and `Value.toLanguage` take a value for what it should name,
* `Settings.lookup` — the value of a setting.

A setting is named by its keys from the outside in, with dots between.  The keys are looked up one
after the other as texts in nested mappings; where a key is missing, or where a value on the way is
no mapping, the setting is missing.  A null that is present is not missing.
-/

namespace StorageInventory.Settings

open Number (Binary64)

/-! ## Values -/

/-- A value of a kind that has no form of its own here, such as binary data, a set, or a list that
holds itself.  It is neither a mapping nor a number. -/
structure Foreign where
  /-- The name of the kind. -/
  kind : Text
  /-- The value counts as given. -/
  isTruthy : Bool
  /-- The value as text. -/
  text : Except Fault Text
  /-- The value as it is shown inside another one. -/
  shown : Except Fault Text
  /-- The value as a whole number. -/
  integer : Except Fault Int
  /-- The path of the file that the value names. -/
  path : Except Fault Text
  /-- The path of the directory that the value names. -/
  directory : Except Fault Text
  /-- What looking for a named file in that directory fails with. -/
  inside : Fault
  /-- The template that the value is. -/
  template : Except Fault Text
  /-- The language that the value names. -/
  language : Except Fault Text

/-- A configuration value. -/
inductive Value where
  | null
  | bool (b : Bool)
  | int (n : Int)
  | float (x : Binary64)
  | text (t : Text)
  | moment (m : Moment)
  | list (items : List Value)
  | mapping (entries : List (Value × Value))
  | foreign (f : Foreign)
  deriving Inhabited

namespace Value

/-- The kind of a value. -/
def kind : Value → Kind
  | .null => .null
  | .bool _ => .bool
  | .int _ => .int
  | .float _ => .float
  | .text _ => .text
  | .moment (.date _) => .date
  | .moment (.dateTime ..) => .dateTime
  | .list _ => .list
  | .mapping _ => .mapping
  | .foreign f => .foreign f.kind

/-- A value that counts as given: neither null, zero, false nor empty. -/
def isTruthy : Value → Bool
  | .null => false
  | .bool b => b
  | .int n => n ≠ 0
  | .float x => !x.isZero
  | .text t => t ≠ []
  | .moment _ => true
  | .list items => !items.isEmpty
  | .mapping entries => !entries.isEmpty
  | .foreign f => f.isTruthy

/-- A whole number is written only if it does not have too many digits. -/
def integerText (n : Int) : Except Fault Text :=
  let text := Text.ofNat n.natAbs
  if Number.digitLimit < text.length then .error .integerTooLongToWrite else .ok (Text.ofInt n)

mutual

/-- A value as it is shown inside another one: texts are quoted. -/
def shown : Value → Except Fault Text
  | .null => .ok "None".toList
  | .bool true => .ok "True".toList
  | .bool false => .ok "False".toList
  | .int n => integerText n
  | .float x => .ok x.toText
  | .text t => .ok (Text.quoted t)
  | .moment m => .ok m.shown
  | .list items =>
    (shownItems items).map fun parts => '[' :: ", ".toList.intercalate parts ++ [']']
  | .mapping entries =>
    (shownEntries entries).map fun parts =>
      '\x7b' :: ", ".toList.intercalate parts ++ ['\x7d']
  | .foreign f => f.shown

/-- The items of a list as they are shown. -/
def shownItems : List Value → Except Fault (List Text)
  | [] => .ok []
  | item :: rest =>
    match shown item with
    | .error fault => .error fault
    | .ok part => (shownItems rest).map (part :: ·)

/-- The entries of a mapping as they are shown. -/
def shownEntries : List (Value × Value) → Except Fault (List Text)
  | [] => .ok []
  | (key, value) :: rest =>
    match shown key, shown value with
    | .ok k, .ok v => (shownEntries rest).map ((k ++ ": ".toList ++ v) :: ·)
    | .error fault, _ => .error fault
    | _, .error fault => .error fault

end

/-- A value as text: a text is itself, and anything else but a moment is shown. -/
def toText : Value → Except Fault Text
  | .text t => .ok t
  | .moment m => .ok m.text
  | .foreign f => f.text
  | value => shown value

/-- A value as a whole number: fractions are dropped, and a text is read as a numeral. -/
def toInteger : Value → Except Fault Int
  | .bool b => .ok (if b then 1 else 0)
  | .int n => .ok n
  | .float (.infinite _) => .error .infinityToInteger
  | .float .nan => .error .nanToInteger
  | .float x => .ok x.truncate
  | .text t =>
    match Number.readInteger t with
    | .ok n => .ok n
    | .error error => .error (Fault.ofIntegerError t error)
  | .foreign f => f.integer
  | value => .error (.notNumeric value.kind)

/-- A value as the path of a file. -/
def toPath : Value → Except Fault Text
  | .text path => .ok path
  | .foreign f => f.path
  | value => .error (.pathNotText value.kind)

/-- A value as a template for log lines. -/
def toTemplate : Value → Except Fault Text
  | .text template => .ok template
  | .foreign f => f.template
  | value => .error (.formatNotText value.kind)

/-- A value as a language. -/
def toLanguage : Value → Except Fault Text
  | .text name => .ok name
  | .foreign f => f.language
  | .list _ => .error (.languageNotHashable .list)
  | .mapping _ => .error (.languageNotHashable .mapping)
  | value => .error (.languageNotText value.kind)

/-! ## Keys -/

/-- The number that a value stands for as a key, as a quotient; truth values are numbers, and what
is not finite stands for none. -/
def keyNumber? : Value → Option (Int × Nat)
  | .bool b => some (if b then 1 else 0, 1)
  | .int n => some (n, 1)
  | .float x => x.toRatio?
  | _ => none

/-- Two values are the same key of a mapping.  Numbers are compared exactly, and not-a-number is a
key like any other. -/
def sameKey : Value → Value → Bool
  | .null, .null => true
  | .text a, .text b => a = b
  | .moment a, .moment b => a.isSame b
  | a, b =>
    match keyNumber? a, keyNumber? b with
    | some (n, d), some (m, e) => n * e = m * d
    | none, none =>
      match a, b with
      | .float x, .float y => x = y
      | _, _ => false
    | _, _ => false

/-- Give a key a value; a known key keeps its place. -/
def putEntry : List (Value × Value) → Value → Value → List (Value × Value)
  | [], key, value => [(key, value)]
  | (k, v) :: rest, key, value =>
    if sameKey k key then (k, value) :: rest else (k, v) :: putEntry rest key value

/-- The value of a key that is exactly the given text. -/
def entry? (key : Text) : List (Value × Value) → Option Value
  | [] => none
  | (.text k, v) :: rest => if k = key then some v else entry? key rest
  | _ :: rest => entry? key rest

/-! ## Looking up settings -/

/-- The value of a key in a mapping; none in anything else. -/
def member? (key : Text) : Value → Option Value
  | .mapping entries => Value.entry? key entries
  | _ => none

/-- The value that a list of keys leads to. -/
def follow? : List Text → Value → Option Value
  | [], value => some value
  | key :: rest, value => (value.member? key).bind (Value.follow? rest)

/-- Following joined lists of keys is following one after the other. -/
theorem follow?_append (first rest : List Text) (value : Value) :
    value.follow? (first ++ rest) = (value.follow? first).bind (Value.follow? rest) := by
  induction first generalizing value with
  | nil => rfl
  | cons key keys ih =>
    simp only [List.cons_append, Value.follow?]
    cases value.member? key with
    | none => rfl
    | some inner => exact ih inner

end Value

/-- The entries of the whole configuration. -/
abbrev Entries := List (Value × Value)

/-- The value of a setting, or the default if it is missing. -/
def lookup (entries : Entries) (path : Text) (default : Value) : Value :=
  ((Value.mapping entries).follow? (Text.fields '.' path)).getD default

end StorageInventory.Settings
