import StorageInventory.Text.Basic

/-!
# JSON text

The output of the program.  Text is written in ASCII: other characters are escaped as UTF-16 units.
On one line, items are separated by a comma and a space; spread over lines, each item has a line of
its own, indented by its depth.  Empty lists and objects take no line break.
-/

namespace StorageInventory

/-- A JSON value; an object keeps the order of its members. -/
inductive Json where
  | null
  | bool (b : Bool)
  | int (n : Int)
  | text (t : Text)
  | list (items : List Json)
  | object (members : List (Text × Json))
  deriving Inhabited

namespace Json

/-- One UTF-16 unit, escaped. -/
def escapeUnit (n : Nat) : Text := '\\' :: 'u' :: Text.ofNatHex 4 n

/-- A character inside a JSON string. -/
def escapeChar (c : Char) : Text :=
  let n := c.toNat
  if c = '"' then "\\\"".toList
  else if c = '\\' then "\\\\".toList
  else if c = '\n' then "\\n".toList
  else if c = '\r' then "\\r".toList
  else if c = '\t' then "\\t".toList
  else if n = 0x08 then "\\b".toList
  else if n = 0x0C then "\\f".toList
  else if 0x20 ≤ n && n < 0x7F then [c]
  else if n < 0x10000 then escapeUnit n
  else escapeUnit (0xD800 + (n - 0x10000) / 0x400) ++ escapeUnit (0xDC00 + (n - 0x10000) % 0x400)

/-- A JSON string. -/
def quote (t : Text) : Text := '"' :: t.flatMap escapeChar ++ ['"']

/-- How values are laid out: on one line, or over lines with this many spaces for each depth. -/
inductive Layout where
  | oneLine
  | lines (indent : Nat)

/-- What stands between an opening bracket and the first item at the given depth, and before the
closing bracket one depth less. -/
def Layout.lineBreak (layout : Layout) (depth : Nat) : Text :=
  match layout with
  | .oneLine => []
  | .lines indent => '\n' :: List.replicate (indent * depth) ' '

/-- What stands between two items. -/
def Layout.separator (layout : Layout) (depth : Nat) : Text :=
  match layout with
  | .oneLine => ", ".toList
  | .lines _ => ',' :: layout.lineBreak depth

/-- Put written items between brackets. -/
def bracket (layout : Layout) (depth : Nat) (opening closing : Char) (items : List Text) : Text :=
  match items with
  | [] => [opening, closing]
  | _ :: _ =>
    opening :: layout.lineBreak (depth + 1) ++ (layout.separator (depth + 1)).intercalate items
      ++ layout.lineBreak depth ++ [closing]

mutual

/-- Write a value at the given depth. -/
def write (layout : Layout) (depth : Nat) : Json → Text
  | .null => "null".toList
  | .bool true => "true".toList
  | .bool false => "false".toList
  | .int n => Text.ofInt n
  | .text t => quote t
  | .list items => bracket layout depth '[' ']' (writeItems layout (depth + 1) items)
  | .object members =>
    bracket layout depth '\x7b' '\x7d' (writeMembers layout (depth + 1) members)

/-- Write the items of a list. -/
def writeItems (layout : Layout) (depth : Nat) : List Json → List Text
  | [] => []
  | item :: rest => write layout depth item :: writeItems layout depth rest

/-- Write the members of an object. -/
def writeMembers (layout : Layout) (depth : Nat) : List (Text × Json) → List Text
  | [] => []
  | (key, value) :: rest =>
    (quote key ++ ": ".toList ++ write layout depth value) :: writeMembers layout depth rest

end

/-- The text of a value. -/
def toText (layout : Layout) (value : Json) : Text := write layout 0 value

end Json

end StorageInventory
