import TodoLedger.Json.Value

/-!
# Writing JSON text

`Json.compact` writes a value without white space, `Json.pretty` with one field or item per line
and two spaces of indentation per level. Characters outside of ASCII are written as they are.
-/

namespace TodoLedger.Json

/-- A character inside of a string. -/
def escapeChar (c : Char) : String :=
  if c = '"' then "\\\""
  else if c = '\\' then "\\\\"
  else if c = '\x08' then "\\b"
  else if c = '\x0c' then "\\f"
  else if c = '\n' then "\\n"
  else if c = '\r' then "\\r"
  else if c = '\t' then "\\t"
  else if c.toNat < 0x20 then
    "\\u00" ++ String.ofList [Nat.digitChar (c.toNat / 16), Nat.digitChar (c.toNat % 16)]
  else c.toString

/-- A string in its quotes. -/
def quote (value : String) : String :=
  "\"" ++ String.join (value.toList.map escapeChar) ++ "\""

mutual

/-- The value without white space. -/
def compact : Json → String
  | .null => "null"
  | .bool value => if value then "true" else "false"
  | .int value => toString value
  | .real digits => digits
  | .string value => quote value
  | .list items => "[" ++ ",".intercalate (compactItems items) ++ "]"
  | .object fields => "\x7b" ++ ",".intercalate (compactFields fields) ++ "\x7d"

/-- The items of a list, each without white space. -/
def compactItems : List Json → List String
  | [] => []
  | item :: rest => compact item :: compactItems rest

/-- The fields of an object, each without white space. -/
def compactFields : List (String × Json) → List String
  | [] => []
  | (name, value) :: rest => (quote name ++ ":" ++ compact value) :: compactFields rest

end

/-- The start of a line at a level of nesting. -/
def indent (level : Nat) : String := "".pushn ' ' (2 * level)

/-- Brackets around parts that stand on lines of their own at the next level. -/
def enclose (level : Nat) (opening closing : String) (parts : List String) : String :=
  if parts.isEmpty then opening ++ closing
  else
    let lines := parts.map (indent (level + 1) ++ ·)
    opening ++ "\n" ++ ",\n".intercalate lines ++ "\n" ++ indent level ++ closing

mutual

/-- The value on indented lines, the first of which stands at `level`. -/
def prettyAt (level : Nat) : Json → String
  | .null => "null"
  | .bool value => if value then "true" else "false"
  | .int value => toString value
  | .real digits => digits
  | .string value => quote value
  | .list items => enclose level "[" "]" (prettyItems (level + 1) items)
  | .object fields => enclose level "\x7b" "\x7d" (prettyFields (level + 1) fields)

/-- The items of a list, each on indented lines. -/
def prettyItems (level : Nat) : List Json → List String
  | [] => []
  | item :: rest => prettyAt level item :: prettyItems level rest

/-- The fields of an object, each on indented lines. -/
def prettyFields (level : Nat) : List (String × Json) → List String
  | [] => []
  | (name, value) :: rest => (quote name ++ ": " ++ prettyAt level value) :: prettyFields level rest

end

/-- The value on indented lines. -/
def pretty (value : Json) : String := prettyAt 0 value

end TodoLedger.Json
