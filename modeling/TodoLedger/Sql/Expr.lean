import TodoLedger.Sql.Name

/-!
# Expressions

What statements say about values: literals, names, and operators with their operands. Values are
never computed here; an `Expr` only has to tell whether it is constant, what it refers to, and where
it puts several values in one place.
-/

namespace TodoLedger.Sql

/-- How a name is written. -/
inductive Quoting where
  | bare
  /-- In double quotes, where a name that is none is a text. -/
  | double
  /-- In backquotes or brackets. -/
  | other
deriving DecidableEq, Repr

/-- What a node of an expression does with its operands. -/
inductive Operator where
  /-- Takes one value of each operand. -/
  | plain
  /-- Compares two values or two rows. -/
  | comparison
  /-- Compares a value or a row with two others. -/
  | between
  /-- Puts values in a row. -/
  | row
  /-- Stops a statement. -/
  | raise
  /-- Gives a text an order. -/
  | collate (collation : String)
  /-- Calls a function. The operands of a call in which arguments are sorted include the keys. -/
  | call (function : String) (isSorted : Bool)
deriving DecidableEq, Repr

/-- An expression. -/
inductive Expr where
  | literal (text : String)
  | string (text : String)
  | name (text : String) (quoting : Quoting)
  /-- A name behind the names of what it belongs to. -/
  | path (names : List String)
  | node (operator : Operator) (operands : List Expr)
deriving Repr

namespace Expr

mutual

/-- The expression and all its parts. -/
def subterms : Expr → List Expr
  | .node operator operands => .node operator operands :: subtermsOf operands
  | leaf => [leaf]

/-- The expressions and all their parts. -/
def subtermsOf : List Expr → List Expr
  | [] => []
  | e :: rest => e.subterms ++ subtermsOf rest

end

mutual

/-- The number of expressions that stand in one another, this one included. What is given an order
counts like a literal. -/
def height : Expr → Nat
  | .node (.collate _) _ => 1
  | .node _ operands => heightOf operands + 1
  | _ => 1

/-- The greatest height of the expressions. -/
def heightOf : List Expr → Nat
  | [] => 0
  | e :: rest => max e.height (heightOf rest)

end

/-- The greatest height of an expression in a statement. -/
def maxHeight : Nat := 1000

/-! ### Rows and names -/

/-- The number of values in one place. -/
def width : Expr → Nat
  | .node .row operands => operands.length
  | _ => 1

/-- True of what stands for several values or none. -/
def isRow (e : Expr) : Bool := e.width ≠ 1

/-- True when the operands of a comparison are equally wide. -/
def isFitting : Expr → Bool
  | .node .comparison operands | .node .between operands =>
    match operands with
    | [] => true
    | e :: rest => rest.all (·.width = e.width)
  | _ => true

/-- True when a row stands only where rows are compared. -/
def hasOnlyComparedRows (e : Expr) : Bool :=
  !e.isRow && e.subterms.all fun
    | .node .comparison _ | .node .between _ => true
    | .node _ operands => !operands.any isRow
    | _ => true

/-- True when every order in the expression is one that exists. -/
def hasKnownCollations (e : Expr) : Bool :=
  e.subterms.all fun
    | .node (.collate collation) _ => isOneOf collations collation
    | _ => true

/-- True of the literals in hexadecimal that do not fit into 64 bits. -/
def isLongLiteral : Expr → Bool
  | .literal text =>
    match text.toList with
    | '0' :: x :: digits =>
      (x = 'x' || x = 'X') && 16 < ((digits.filter (· ≠ '_')).dropWhile (· = '0')).length
    | _ => false
  | _ => false

/-- True when a part of the expression can be evaluated, apart from its own parts. -/
def isEvaluablePart : Expr → Bool
  | .node .comparison operands | .node .between operands => operands.all hasKnownCollations
  | .node .raise _ => false
  | e => !e.isLongLiteral

/-- True when the expression can be evaluated in every row. -/
def isEvaluable (e : Expr) : Bool := e.hasOnlyComparedRows && e.subterms.all isEvaluablePart

/-- The names in the expression. -/
def names (e : Expr) : List String :=
  e.subterms.filterMap fun
    | .name text _ => some text
    | _ => none

/-! ### Constants -/

/-- True of the words for truth values. -/
def isTruth (text : String) (quoting : Quoting) : Bool :=
  quoting = .bare && isOneOf truthWords text

/-- True when no part of the expression depends on a row or on where it is evaluated. -/
def isConstant (e : Expr) : Bool :=
  e.subterms.all fun
    | .name text quoting => isTruth text quoting
    | .path _ | .node .raise _ => false
    | _ => true

/-- True when a part of the expression is a call. -/
def hasCall (e : Expr) : Bool :=
  e.subterms.any fun
    | .node (.call _ _) _ => true
    | _ => false

/-- True of the literals that are never true. -/
def isNever : Expr → Bool
  | .literal "false" => true
  | .literal text =>
    match text.toList with
    | [] => false
    | _ :: 'x' :: rest | _ :: 'X' :: rest => rest.all (· = '0')
    | digits => digits.all (· = '0')
  | _ => false

/-- True when both of two conditions hold. If one of them never does, the other is not kept, unless
something is called. -/
def both (a b : Expr) : Expr :=
  if (a.isNever || b.isNever) && !a.hasCall && !b.hasCall then .literal "0"
  else .node .plain [a, b]

/-- The expression without the orders that it is given. -/
def withoutCollation : Expr → Expr
  | .node (.collate _) [e] => e.withoutCollation
  | e => e

/-- The order that is given last. -/
def collation? : Expr → Option String
  | .node (.collate collation) _ => some collation
  | _ => none

/-- An expression in the place of a column, where a text is a name. -/
def asColumn : Expr → Expr
  | .string text => .name text .other
  | .node (.collate collation) [.string text] => .node (.collate collation) [.name text .other]
  | e => e

end Expr

/-- A term by which rows are sorted or indexed. -/
structure Term where
  expr : Expr
  /-- True when the term says where nothing is sorted. -/
  hasNulls : Bool
deriving Repr

end TodoLedger.Sql
