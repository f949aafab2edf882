import DocumentStore.Json.Value

/-!
# JSON text

Compact text has no blanks; indented text puts every item and field on a line of its own.  Both
keep the order of fields.  Strings escape the quote, the backslash and the controls below the
space, and nothing else.

* `Value.compact` — one line.
* `Value.indented` — two blanks to a level; empty containers stay on one line.
-/

set_option autoImplicit false

namespace DocumentStore

/-- A control character in a JSON string. -/
def controlEscape (c : Char) : List Char :=
  match c.toNat with
  | 8 => ['\\', 'b']
  | 9 => ['\\', 't']
  | 10 => ['\\', 'n']
  | 12 => ['\\', 'f']
  | 13 => ['\\', 'r']
  | n => '\\' :: 'u' :: '0' :: '0' :: (Nat.digitChar (n / 16) :: [Nat.digitChar (n % 16)])

/-- One character of a JSON string. -/
def jsonChar (c : Char) : List Char :=
  if c = '"' then ['\\', '"']
  else if c = '\\' then ['\\', '\\']
  else if c.toNat < 0x20 then controlEscape c
  else [c]

/-- A JSON string. -/
def jsonString (text : String) : String :=
  String.ofList ('"' :: (text.toList.flatMap jsonChar ++ ['"']))

namespace Value

variable {L : Type}

mutual

/-- The compact text of a value. -/
def compact : Value L → String
  | .null => "null"
  | .bool b => if b then "true" else "false"
  | .number n => n.text
  | .string s => jsonString s
  | .array _ items => "[" ++ ",".intercalate (compactItems items) ++ "]"
  | .object _ fields => "\x7b" ++ ",".intercalate (compactFields fields) ++ "\x7d"

/-- The compact texts of items. -/
def compactItems : List (Value L) → List String
  | [] => []
  | item :: rest => compact item :: compactItems rest

/-- The compact texts of fields. -/
def compactFields : List (String × Value L) → List String
  | [] => []
  | (key, value) :: rest => (jsonString key ++ ":" ++ compact value) :: compactFields rest

end

/-- Lines between brackets, one level deeper than `depth`. -/
def indentedBlock (depth : Nat) (opening closing : String) (lines : List String) : String :=
  let margin (levels : Nat) : String := "".pushn ' ' (2 * levels)
  if lines.isEmpty then opening ++ closing
  else
    let separator := ",\n" ++ margin (depth + 1)
    opening ++ "\n" ++ margin (depth + 1) ++ separator.intercalate lines
      ++ "\n" ++ margin depth ++ closing

mutual

/-- The indented text of a value that stands `depth` levels deep. -/
def indentedAt (depth : Nat) : Value L → String
  | .array _ items => indentedBlock depth "[" "]" (indentedItems (depth + 1) items)
  | .object _ fields => indentedBlock depth "\x7b" "\x7d" (indentedFields (depth + 1) fields)
  | .null => "null"
  | .bool b => if b then "true" else "false"
  | .number n => n.text
  | .string s => jsonString s

/-- The indented texts of items. -/
def indentedItems (depth : Nat) : List (Value L) → List String
  | [] => []
  | item :: rest => indentedAt depth item :: indentedItems depth rest

/-- The indented texts of fields. -/
def indentedFields (depth : Nat) : List (String × Value L) → List String
  | [] => []
  | (key, value) :: rest =>
    (jsonString key ++ ": " ++ indentedAt depth value) :: indentedFields depth rest

end

/-- The indented text of a value. -/
def indented (value : Value L) : String := indentedAt 0 value

end Value

end DocumentStore
