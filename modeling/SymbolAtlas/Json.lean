/-
# SymbolAtlas.Json — reports as JSON documents

A report is an ordered document: members keep the order in which they were written. `pretty` lays a
document out with two blanks for each level, an empty list or object on one line, and every
control character and every character beyond ASCII as `\u` escapes of its UTF-16 units.
-/
import SymbolAtlas.Text.Basic

namespace SymbolAtlas

/-- A JSON document whose objects keep the order of their members. -/
inductive Json
  | null
  | bool (value : Bool)
  | int (value : Int)
  | str (value : String)
  | arr (items : List Json)
  | obj (members : List (String × Json))
  deriving BEq, Repr, Inhabited

namespace Json

/-! ## Building -/

/-- A text as a JSON string. -/
def text (s : Text) : Json := .str (String.ofList s)

/-- A text that may be absent. -/
def text? : Option Text → Json
  | some s => text s
  | none => .null

/-- A number that may be absent. -/
def int? : Option Int → Json
  | some n => .int n
  | none => .null

/-- A list of texts. -/
def texts (items : List Text) : Json := .arr (items.map text)

/-! ## Printing -/

/-- One UTF-16 unit as an escape with four digits in lower case. -/
def escapeUnit (n : Nat) : String :=
  let digit (k : Nat) : Char := Nat.digitChar (n / Nat.pow 16 k % 16)
  String.ofList ['\\', 'u', digit 3, digit 2, digit 1, digit 0]

/-- One character inside a string. -/
def escapeChar (c : Char) : String :=
  let n := c.toNat
  if c == '"' then "\\\""
  else if c == '\\' then "\\\\"
  else if c == '\n' then "\\n"
  else if c == '\r' then "\\r"
  else if c == '\t' then "\\t"
  else if n == 8 then "\\b"
  else if n == 12 then "\\f"
  else if 32 ≤ n && n < 127 then String.singleton c
  else if n < 0x10000 then escapeUnit n
  else escapeUnit (0xD800 + (n - 0x10000) / 1024) ++ escapeUnit (0xDC00 + (n - 0x10000) % 1024)

/-- A string between its quotes. -/
def quote (s : String) : String :=
  s.toList.foldl (fun out c => out ++ escapeChar c) "\"" ++ "\""

/-- The start of a line at the given level. -/
def margin (level : Nat) : String := String.ofList (List.replicate (2 * level) ' ')

mutual

/-- A document whose first line is already indented; its other lines lie at `level` or deeper. -/
def layout (level : Nat) : Json → String
  | .null => "null"
  | .bool true => "true"
  | .bool false => "false"
  | .int n => toString n
  | .str s => quote s
  | .arr [] => "[]"
  | .arr (item :: rest) =>
    "[\n" ++ layoutItems (level + 1) (item :: rest) ++ "\n" ++ margin level ++ "]"
  | .obj [] => "\x7b\x7d"
  | .obj (member :: rest) =>
    "\x7b\n" ++ layoutMembers (level + 1) (member :: rest) ++ "\n" ++ margin level ++ "\x7d"

/-- The items of a list, one below the other. -/
def layoutItems (level : Nat) : List Json → String
  | [] => ""
  | [item] => margin level ++ layout level item
  | item :: rest => margin level ++ layout level item ++ ",\n" ++ layoutItems level rest

/-- The members of an object, one below the other. -/
def layoutMembers (level : Nat) : List (String × Json) → String
  | [] => ""
  | [(name, value)] => margin level ++ quote name ++ ": " ++ layout level value
  | (name, value) :: rest =>
    margin level ++ quote name ++ ": " ++ layout level value ++ ",\n" ++ layoutMembers level rest

end

/-- The document laid out over several lines. -/
def pretty (document : Json) : String := layout 0 document

end Json

end SymbolAtlas
