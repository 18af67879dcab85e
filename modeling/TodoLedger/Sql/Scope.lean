import TodoLedger.Sql.Expr
import TodoLedger.Sql.Function

/-!
# Scopes

An expression over the rows of a table refers to its columns. A `Scope` says what else it may refer
to: a check may use the number of the row and call any function, a value that is kept may not.
-/

namespace TodoLedger.Sql

/-- What an expression over the rows of a table may use. -/
structure Scope where
  table : String
  columns : List String
  /-- True if the number of the row has a name. -/
  hasRowId : Bool
  /-- True if the table can be named in front of a column. -/
  hasPaths : Bool
  /-- True if only steady functions can be called. -/
  isSteady : Bool

namespace Scope

/-- True when the name stands for a value of the row. -/
def hasColumn (scope : Scope) (name : String) : Bool :=
  isOneOf scope.columns name || (scope.hasRowId && isOneOf rowIdNames name)

/-- True when names in a row stand for a value: a column behind its table. -/
def hasPath (scope : Scope) (names : List String) : Bool :=
  match names.reverse with
  | column :: table :: _ => scope.hasPaths && sameName table scope.table && scope.hasColumn column
  | _ => false

/-- True when a part of an expression means something, apart from its own parts. A name in double
quotes that is no column is a text. -/
def hasPart (scope : Scope) : Expr → Bool
  | .name text quoting =>
    scope.hasColumn text || quoting = .double || Expr.isTruth text quoting
  | .path names => scope.hasPath names
  | .node (.call function isSorted) operands =>
    !isSorted && isCallable scope.isSteady function operands.length
  | e => e.isFitting

/-- True when the expression means something. -/
def has (scope : Scope) (e : Expr) : Bool := e.subterms.all scope.hasPart

end Scope

end TodoLedger.Sql
