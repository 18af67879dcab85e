import TodoLedger.Sql.Expr.Parser
import TodoLedger.Sql.Statement

/-!
# Reading statements

`Statement.ofText?` reads a statement up to its end or its first semicolon; what follows is left
alone. `tableOfRequest?` reads the name of the table in a request for its columns.
-/

namespace TodoLedger.Sql.Reader

/-! ### Parts of rules -/

/-- Reads what happens when a rule is broken. -/
def conflictClause : Reader Unit := do
  if ← has (words ["on", "conflict"]) then
    word "rollback" <|> word "abort" <|> word "fail" <|> word "ignore" <|> word "replace"

/-- Reads what happens to a row when the row that it refers to changes. -/
def action : Reader Unit :=
  words ["set", "null"] <|> words ["set", "default"] <|> word "cascade" <|> word "restrict" <|>
    words ["no", "action"]

/-- Reads when a reference is looked at. -/
def deferral : Reader Unit := do
  let _ ← has (word "not")
  word "deferrable"
  if ← has (word "initially") then word "deferred" <|> word "immediate"

/-- Reads the table and the columns that are referred to, and gives the number of the columns. -/
def target : Reader Nat := do
  word "references"
  let _ ← name
  let columns ← optional (inParentheses (list name))
  let _ ← many do
    (do word "match"; let _ ← name) <|>
    (do word "on"; word "insert" <|> word "delete" <|> word "update"; action)
  return (columns.getD []).length

/-- Reads a word that says that numbers count upwards for ever. -/
def counting : Reader Bool := has (word "autoincrement")

/-! ### Columns -/

/-- Reads a default: a value with or without a sign, an expression in parentheses, or a name that
stands for a text. -/
def defaultValue : Reader Expr := do
  let signed ← optional ((do sign "-"; return "-") <|> (do sign "+"; return ""))
  if signed.isNone then
    if let some value ← optional (inParentheses expression) then return value
  let sign := signed.getD ""
  match ← anyToken with
  | .number text | .grouped text => return .literal (sign ++ String.ofList text)
  | .bytes => return .literal ""
  | .string text => return .string (String.ofList text)
  | .name text _ => guard signed.isNone; return .string (String.ofList text)
  | .word text =>
    if isAmong ["null"] text then return .literal "null"
    if isAmong timeWords text then return .node (.call (lower text) false) []
    guard (signed.isNone && isFree text)
    return if isAmong truthWords text then .name (String.ofList text) .bare
      else .string (String.ofList text)
  | _ => failure

/-- Reads how a column is computed, and perhaps how it is stored. -/
def computation : Reader ColumnRule := do
  if ← has (word "generated") then word "always"
  word "as"
  let value ← inParentheses expression
  if ← has (word "stored") then return .computed value true
  let _ ← has (word "virtual")
  return .computed value false

/-- Reads a rule for a column. -/
def columnRule : Reader ColumnRule :=
  (do word "constraint"; let _ ← name; return .neutral) <|>
  (do word "default"; return .default (← defaultValue)) <|>
  (do word "null"; conflictClause; return .neutral) <|>
  (do words ["not", "null"]; conflictClause; return .nonNull) <|>
  (do word "unique"; conflictClause; return .unique) <|>
  (do
    words ["primary", "key"]
    let isDescending ← has (word "desc")
    if !isDescending then let _ ← has (word "asc")
    conflictClause
    return .primaryKey isDescending (← counting)) <|>
  (do word "check"; return .check (← inParentheses expression)) <|>
  (do return .references (← target)) <|>
  (do deferral; return .neutral) <|>
  (do word "collate"; return .collation (← label)) <|>
  computation

/-- Reads the definition of a column. -/
def columnDefinition : Reader ColumnDefinition := do
  let name ← name
  let type ← typeText
  return ⟨name, type, ← many columnRule⟩

/-! ### Tables -/

/-- Reads the terms of a key or an index. -/
def terms : Reader (List Term) := list (sortTerm leveled)

/-- Reads a rule for a table. -/
def tableRule : Reader TableRule :=
  (do word "constraint"; let _ ← name; return .neutral) <|>
  (do
    words ["primary", "key"]
    let rule ← inParentheses do return .primaryKey (← terms) (← counting)
    conflictClause
    return rule) <|>
  (do
    word "unique"
    let terms ← inParentheses terms
    conflictClause
    return .unique terms) <|>
  (do
    word "check"
    let condition ← inParentheses expression
    conflictClause
    return .check condition) <|>
  (do
    words ["foreign", "key"]
    let columns ← inParentheses (list name)
    let targets ← target
    let _ ← has deferral
    return .foreignKey columns targets)

/-- Reads an option of a table. -/
def tableOption : Reader TableOption :=
  (do words ["without", "rowid"]; return .withoutRowId) <|>
  (do word "strict"; return .strict)

/-- Reads the name of something new, perhaps behind its place. -/
def placedName : Reader (Place × String) := do
  let first ← name
  if ← has (sign ".") then
    let second ← name
    if sameName first "main" then return (.main, second)
    guard (sameName first "temp")
    return (.temporary, second)
  else return (.main, first)

/-- Reads the name of a table or an index that is not temporary. -/
def mainName : Reader String := do
  let (place, name) ← placedName
  guard (place = .main)
  return name

/-- Reads the condition that something is new. The word in front of it is no name here. -/
def newness : Reader Bool := do
  if ← has (word "if") then
    words ["not", "exists"]
    return true
  else return false

/-- Reads the condition that something is there. -/
def presence : Reader Bool := has (words ["if", "exists"])

/-- Reads the definition of a table behind its name. -/
def tableBody (name : String) : Reader TableDefinition := do
  sign "("
  let columns ← list columnDefinition
  let rules ← optional do
    sign ","
    let first ← tableRule
    let rest ← many do
      let _ ← has (sign ",")
      tableRule
    return first :: rest
  sign ")"
  let options ← list tableOption <|> pure []
  return ⟨name, columns, rules.getD [], options⟩

/-! ### Statements -/

/-- Reads a statement that creates a table. -/
def createTable : Reader Statement := do
  words ["create", "table"]
  let ifNew ← newness
  let (place, name) ← placedName
  return .createTable ifNew place (← tableBody name)

/-- Reads a statement that creates an index. -/
def createIndex : Reader Statement := do
  words ["create", "index"]
  let ifNew ← newness
  let (place, index) ← placedName
  word "on"
  let table ← name
  let terms ← inParentheses terms
  let condition ← optional do word "where"; expression
  return .createIndex ifNew place ⟨index, table, terms, condition⟩

/-- Reads a statement that changes a table. -/
def alterTable : Reader Statement := do
  words ["alter", "table"]
  let table ← mainName
  (do words ["add", "column"]; return .addColumn table (← columnDefinition)) <|>
  (do
    words ["rename", "column"]
    let old ← name
    word "to"
    return .renameColumn table old (← name))

/-- Reads a statement. -/
def statement : Reader Statement :=
  createTable <|> createIndex <|> alterTable <|>
  (do words ["drop", "table"]; return .dropTable (← presence) (← mainName)) <|>
  (do words ["drop", "index"]; return .dropIndex (← presence) (← mainName))

/-- Reads the name in a request: a name, a number, or one of three words that cannot be names. -/
def requestedName : Reader String :=
  name <|> token (fun
    | .word text =>
      if isAmong ["on", "delete", "default"] text then some (String.ofList text) else none
    | _ => none) <|>
  (do
    let isNegative ← has (sign "-")
    if !isNegative then let _ ← has (sign "+")
    token fun
      | .number text => some (String.ofList (if isNegative then '-' :: text else text))
      | _ => none)

/-- Reads a request for the columns of a table. -/
def tableRequest : Reader String := do
  words ["pragma", "table_info"]
  inParentheses requestedName

end TodoLedger.Sql.Reader

namespace TodoLedger.Sql

/-- The statement in a text. -/
def Statement.ofText? (text : List Char) : Option Statement := Reader.statement.run? text

/-- The name of the table in the text of a request for its columns. -/
def tableOfRequest? (text : List Char) : Option String := Reader.tableRequest.run? text

end TodoLedger.Sql
