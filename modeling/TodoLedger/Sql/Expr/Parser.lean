import TodoLedger.Sql.Expr
import TodoLedger.Sql.Reader

/-!
# Reading expressions

Operators bind in eleven levels, from `OR` (1) to `COLLATE` (11). An expression of a level is an
operand and what extends it: operators that bind at least as tightly as the level. All parts read
their own operands with a `Leveled` reader that is handed in, so only `expressionUpTo` recurs.
-/

namespace TodoLedger.Sql.Reader

/-- Reads an expression in which all operators bind at least as tightly as a level. -/
abbrev Leveled := Nat → Reader Expr

/-- A word of the language in the form in which readers compare it. -/
def lower (word : List Char) : String := String.ofList (word.map Char.toLower)

/-! ### Names and calls -/

/-- Reads a term by which something is sorted. -/
def sortTerm (expr : Leveled) : Reader Term := do
  let key ← expr 0
  let _ ← has (word "asc" <|> word "desc")
  let hasNulls ← has do
    word "nulls"
    word "first" <|> word "last"
  return ⟨key, hasNulls⟩

/-- Reads the arguments of a call, and tells whether they are sorted. No arguments are not. -/
def arguments (expr : Leveled) : Reader (Bool × List Expr) :=
  inParentheses do
    if ← has (sign "*") then return (false, [])
    let _ ← has (word "distinct" <|> word "all")
    let operands ← list (expr 0) <|> pure []
    let keys := (← optional do words ["order", "by"]; list (sortTerm expr)).getD []
    return if operands.isEmpty then (false, [])
      else (!keys.isEmpty, operands ++ keys.map (·.expr))

/-- Reads the names behind a name, and takes `whole` if there are none. -/
def path (first : String) (whole : Expr) : Reader Expr := do
  let more ← upTo (do sign "."; name) 2
  return if more.isEmpty then whole else .path (first :: more)

/-- Reads what belongs to a name: arguments, or further names. -/
def reference (expr : Leveled) (text : String) (quoting : Quoting) : Reader Expr :=
  (do
    let (isSorted, operands) ← arguments expr
    return .node (.call text isSorted) operands) <|>
  path text (.name text quoting)

/-! ### Operands -/

/-- Reads the branches of a choice. -/
def branches (expr : Leveled) : Reader (List Expr) := do
  let found ← many do
    word "when"
    let condition ← expr 0
    word "then"
    return [condition, ← expr 0]
  guard !found.isEmpty
  let last ← optional do word "else"; expr 0
  word "end"
  return found.flatten ++ last.toList

/-- Reads what follows a word at the start of an operand. -/
def wordOperand (expr : Leveled) (text : List Char) : Reader Expr :=
  match lower text with
  | "null" => pure (.literal "null")
  | "not" => do return .node .plain [← expr 3]
  | "case" => do
    let subject ← optional do without (word "when"); expr 0
    return .node .plain (subject.toList ++ (← branches expr))
  | "cast" => inParentheses do
    let operand ← expr 0
    word "as"
    let _ ← typeText
    return .node .plain [operand]
  | "raise" => inParentheses do
    if ← has (word "ignore") then return .node .raise []
    word "rollback" <|> word "abort" <|> word "fail"
    sign ","
    return .node .raise [← expr 0]
  | lowered =>
    if timeWords.contains lowered then pure (.node (.call lowered false) [])
    else if isThing text then reference expr (String.ofList text) .bare
    else failure

/-- Reads an operand: a literal, a name, a call, what stands in parentheses, or an operand behind a
sign. -/
def operand (expr : Leveled) : Reader Expr := do
  match ← anyToken with
  | .number text | .grouped text => return .literal (String.ofList text)
  | .bytes => return .literal ""
  | .string text => path (String.ofList text) (.string (String.ofList text))
  | .name text isDouble =>
    reference expr (String.ofList text) (if isDouble then .double else .other)
  | .word text => wordOperand expr text
  | .sign ['-'] | .sign ['+'] | .sign ['~'] => return .node .plain [← expr 12]
  | .sign ['('] =>
    without (word "with")
    let operands ← list (expr 0)
    sign ")"
    return match operands with
      | [operand] => operand
      | operands => .node .row operands
  | _ => failure

/-! ### Operators -/

/-- The operators that are signs, with their levels. -/
def signOperators : List (String × Nat × Operator) :=
  (["=", "==", "<>", "!="].map (·, 4, .comparison)) ++
  (["<", "<=", ">", ">="].map (·, 5, .comparison)) ++
  (["&", "|", "<<", ">>"].map (·, 7, .plain)) ++
  (["+", "-"].map (·, 8, .plain)) ++
  (["*", "/", "%"].map (·, 9, .plain)) ++
  [("||", 10, .plain), ("->", 10, .call "->" false), ("->>", 10, .call "->>" false)]

/-- Reads the right side of a condition that is a word, which may be denied. -/
def condition (expr : Leveled) (left : Expr) (isDenied : Bool) (text : List Char) : Reader Expr :=
  match lower text with
  | "between" => do
    let low ← expr 3
    word "and"
    return .node .between [left, low, ← expr 5]
  | "in" => inParentheses do
    without (word "with")
    let values ← list (expr 0) <|> pure []
    guard (values.isEmpty || !left.isRow)
    return if values.isEmpty then .literal (if isDenied then "true" else "false")
      else .node .plain (left :: values)
  | function => do
    guard (["like", "glob", "regexp", "match"].contains function)
    let right ← expr 5
    let escape ← optional do word "escape"; expr 5
    return .node (.call function false) (right :: left :: escape.toList)

/-- Reads the right side of a comparison for sameness. -/
def sameness (expr : Leveled) (left : Expr) : Reader Expr := do
  let _ ← has (word "not")
  let _ ← has (words ["distinct", "from"])
  return .node .comparison [left, ← expr 5]

/-- Reads an operator that is a word, with what stands to its right. -/
def wordExtension (expr : Leveled) (level : Nat) (left : Expr) (text : List Char) :
    Reader Expr :=
  match lower text with
  | "or" => do
    guard (level ≤ 1)
    return .node .plain [left, ← expr 2]
  | "and" => do
    guard (level ≤ 2)
    return left.both (← expr 3)
  | "not" => do
    guard (level ≤ 3)
    if ← has (word "null") then return .node .plain [left]
    match ← anyToken with
    | .word text => condition expr left true text
    | _ => failure
  | "is" => do
    guard (level ≤ 4)
    sameness expr left
  | "isnull" | "notnull" => do
    guard (level ≤ 4)
    return .node .plain [left]
  | "collate" => do
    guard (level ≤ 11)
    return .node (.collate (← label)) [left]
  | _ => do
    guard (level ≤ 4)
    condition expr left false text

/-- Reads an operator that binds at least as tightly as the level, with what stands to its right. -/
def extension (expr : Leveled) (level : Nat) (left : Expr) : Reader Expr := do
  match ← anyToken with
  | .sign text =>
    match signOperators.lookup (String.ofList text) with
    | some (own, operator) =>
      guard (level ≤ own)
      return .node operator [left, ← expr (own + 1)]
    | none => failure
  | .word text => wordExtension expr level left text
  | _ => failure

/-- Reads at most `fuel` operators. -/
def extended (expr : Leveled) (level : Nat) : Nat → Expr → Reader Expr
  | 0, left => pure left
  | fuel + 1, left =>
    (do extended expr level fuel (← extension expr level left)) <|> pure left

/-- Reads an expression that is nested at most `fuel` deep. -/
def expressionUpTo : Nat → Leveled
  | 0, _ => failure
  | fuel + 1, level => do extended (expressionUpTo fuel) level fuel (← operand (expressionUpTo fuel))

/-- Reads an expression of a level that is not too high. Each step inwards takes a lexeme. -/
def leveled : Leveled := fun level => do
  let e ← expressionUpTo ((← get).length + 1) level
  guard (e.height ≤ Expr.maxHeight)
  return e

/-- Reads an expression. -/
def expression : Reader Expr := leveled 0

end TodoLedger.Sql.Reader
