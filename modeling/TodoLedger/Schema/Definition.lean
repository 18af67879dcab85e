import TodoLedger.Schema.Catalog
import TodoLedger.Sql.DeclaredType
import TodoLedger.Sql.Scope
import TodoLedger.Sql.Statement

/-!
# What a definition makes

`TableDefinition.live?` tells which table a definition makes, if it can be carried out: columns with
different names, at most one primary key, keys over columns that exist, and conditions that mean
something. A single whole-numbered key column is the number of the row; every other key gets an
index, and equal keys share one. `LiveTable.canHave` tells whether an index can be made.
-/

namespace TodoLedger.Sql

open Schema

/-! ### Columns -/

namespace ColumnRule

/-- True of a rule by which the column is computed. -/
def isComputed : ColumnRule → Bool
  | .computed _ _ => true
  | _ => false

/-- True of a default. -/
def isDefault : ColumnRule → Bool
  | .default _ => true
  | _ => false

/-- True of the rule that the column is never empty. -/
def isNonNull : ColumnRule → Bool
  | .nonNull => true
  | _ => false

/-- True of the rule that the column is the primary key. -/
def isPrimaryKey : ColumnRule → Bool
  | .primaryKey _ _ => true
  | _ => false

/-- True of the rules that can be followed whatever the other rules are. A default is constant, and
a column refers to one column. -/
def isPossible : ColumnRule → Bool
  | .default value => value.isConstant
  | .references targets => targets ≤ 1
  | .collation name => isOneOf collations name
  | _ => true

end ColumnRule

namespace ColumnDefinition

/-- The type that the database reports for the column. -/
def liveType (column : ColumnDefinition) : String := reportedType column.type

/-- True when the column is computed. -/
def isComputed (column : ColumnDefinition) : Bool := column.rules.any (·.isComputed)

/-- True when the column is declared to be never empty. -/
def isNonNull (column : ColumnDefinition) : Bool := column.rules.any (·.isNonNull)

/-- The order of the texts in the column. -/
def collation (column : ColumnDefinition) : String :=
  column.rules.foldl (fun last rule => match rule with
    | .collation name => name
    | _ => last) "binary"

/-- True when the rules of the column can be followed together. A computed column is computed in one
way, and is neither given a default nor part of the key. -/
def isPossible (column : ColumnDefinition) : Bool :=
  column.rules.all (·.isPossible) && (column.rules.filter (·.isComputed)).length ≤ 1 &&
    !(column.isComputed && column.rules.any fun rule => rule.isDefault || rule.isPrimaryKey)

/-- The conditions that the rows have to meet. -/
def checks (column : ColumnDefinition) : List Expr :=
  column.rules.filterMap fun
    | .check condition => some condition
    | _ => none

/-- The expressions that compute the column. -/
def computations (column : ColumnDefinition) : List Expr :=
  column.rules.filterMap fun
    | .computed value _ => some value
    | _ => none

/-- The expressions that compute the column whenever it is read. -/
def readings (column : ColumnDefinition) : List Expr :=
  column.rules.filterMap fun
    | .computed value false => some value
    | _ => none

end ColumnDefinition

/-! ### Keys -/

/-- A key as it is declared. -/
structure DeclaredKey where
  isPrimary : Bool
  /-- True if the key may be the number of the row. -/
  mayNumber : Bool
  isCounting : Bool
  terms : List Term

/-- A column of a key, with the order of its texts. -/
abbrev KeyColumn := String × List Char

namespace TableDefinition

/-- The column of that name. -/
def column? (table : TableDefinition) (name : String) : Option ColumnDefinition :=
  table.columns.find? (sameName ·.name name)

/-- The names of the columns, in their order. -/
def columnNames (table : TableDefinition) : List String := table.columns.map (·.name)

/-- The key that a rule for a column declares. -/
def columnKey? (column : ColumnDefinition) : ColumnRule → Option DeclaredKey
  | .primaryKey isDescending isCounting =>
    some ⟨true, !isDescending, isCounting, [⟨.name column.name .other, false⟩]⟩
  | .unique => some ⟨false, false, false, [⟨.name column.name .other, false⟩]⟩
  | _ => none

/-- The key that a rule for the table declares. -/
def ruleKey? : TableRule → Option DeclaredKey
  | .primaryKey terms isCounting => some ⟨true, true, isCounting, terms⟩
  | .unique terms => some ⟨false, false, false, terms⟩
  | _ => none

/-- All keys, in the order in which they are declared. -/
def keys (table : TableDefinition) : List DeclaredKey :=
  (table.columns.flatMap fun column => column.rules.filterMap (columnKey? column)) ++
    table.rules.filterMap ruleKey?

/-- The column that a term of a key names. -/
def namedColumn? (table : TableDefinition) (term : Term) : Option ColumnDefinition :=
  match term.expr.asColumn.withoutCollation with
  | .name text _ => if term.hasNulls then none else table.column? text
  | _ => none

/-- The column of a term, with the order that the term or else the column gives it. -/
def keyColumn? (table : TableDefinition) (term : Term) : Option KeyColumn :=
  match table.namedColumn? term with
  | some column =>
    let collation := term.expr.collation?.getD column.collation
    if isOneOf collations collation then some (column.name, folded collation) else none
  | none => none

/-- The column that is the number of the row, if the key consists of it. -/
def numberColumn? (table : TableDefinition) (key : DeclaredKey) : Option String :=
  match key.terms with
  | [term] =>
    match table.namedColumn? term with
    | some column =>
      if key.isPrimary && key.mayNumber && column.liveType = "INTEGER" then some column.name else none
    | none => none
  | _ => none

/-- The columns of a key that is not the number of the row. -/
def keyColumns? (table : TableDefinition) (key : DeclaredKey) : Option (List KeyColumn) :=
  key.terms.mapM table.keyColumn?

/-! ### Options and conditions -/

/-- True when the rows have numbers, which is so unless the table does without. -/
def hasRowId (table : TableDefinition) : Bool := !table.options.contains .withoutRowId

/-- True when the table is declared to hold values of its columns' types only. -/
def isStrict (table : TableDefinition) : Bool := table.options.contains .strict

/-- What the conditions of the table may use. -/
def checkScope (table : TableDefinition) : Scope :=
  ⟨table.name, table.columnNames, table.hasRowId, true, false⟩

/-- What the expressions for computed columns may use. -/
def computationScope (table : TableDefinition) : Scope :=
  ⟨table.name, table.columnNames, false, false, true⟩

/-- True when a rule of the table means something. -/
def isPossibleRule (table : TableDefinition) : TableRule → Bool
  | .check condition => table.checkScope.has condition
  | .foreignKey columns targets =>
    columns.all (isOneOf table.columnNames) && (targets = 0 || targets = columns.length)
  | _ => true

/-- The columns that `fuel` more steps of computation leave open. A step computes the columns that
need no open one. -/
def openColumns : Nat → List ColumnDefinition → List ColumnDefinition
  | 0, columns => columns
  | fuel + 1, columns =>
    let needs := fun column : ColumnDefinition => column.readings.flatMap Expr.names
    openColumns fuel <| columns.filter fun column =>
      columns.any fun other => isOneOf (needs column) other.name

/-- True when the computed columns can be read: none needs itself. -/
def isReadable (table : TableDefinition) : Bool :=
  let computed := table.columns.filter (!·.readings.isEmpty)
  (openColumns computed.length computed).isEmpty &&
    (computed.flatMap (·.readings)).all (·.isEvaluable)

/-- True when the table can be made, as far as its keys do not matter. -/
def isPossible (table : TableDefinition) : Bool :=
  !hasRepeated table.columnNames && table.columns.all (·.isPossible) &&
    table.columns.any (!·.isComputed) &&
    (table.columns.flatMap (·.checks)).all table.checkScope.has &&
    (table.columns.flatMap (·.computations)).all table.computationScope.has &&
    table.rules.all table.isPossibleRule && table.isReadable &&
    (!table.isStrict || table.columns.all fun column => standardTypes.contains column.liveType)

/-! ### The table -/

/-- The names of the indices that keys get. -/
def keyIndices (table : TableDefinition) (count : Nat) : List String :=
  (List.range count).map fun n =>
    "sqlite_autoindex_" ++ table.name ++ "_" ++ toString (n + 1)

/-- A column as it exists, given the columns of the primary key, and whether those cannot be
empty. -/
def liveColumn (primary : List String) (isBinding : Bool) (column : ColumnDefinition) : LiveColumn where
  name := column.name
  type := column.liveType
  nonNull := column.isNonNull || (isBinding && primary.contains column.name)
  keyPosition := match primary.findIdx? (· = column.name) with
    | some position => position + 1
    | none => 0
  isComputed := column.isComputed

/-- The table that the definition makes, if it can be made. -/
def live? (table : TableDefinition) : Option LiveTable := do
  let primaries := table.keys.filter (·.isPrimary)
  let number := primaries.findSome? table.numberColumn?
  let indexed := table.keys.filter fun key => !(key.isPrimary && number.isSome)
  let columns ← indexed.mapM fun key => table.keyColumns? key
  let primary := ((indexed.zip columns).find? (·.1.isPrimary)).map (·.2)
  let names := number.toList ++ (primary.getD []).map (·.1)
  guard (table.isPossible && primaries.length ≤ 1)
  guard (primaries.all fun key => !key.isCounting || (number.isSome && table.hasRowId))
  guard (table.hasRowId || !primaries.isEmpty)
  guard (names.all fun name => (table.column? name).any (!·.isComputed))
  let isBinding := !table.hasRowId || (table.isStrict && number.isNone)
  let distinct := columns.eraseDups
  let indices := (distinct.zip (table.keyIndices distinct.length)).filter fun (key, _) =>
    table.hasRowId || some key ≠ primary
  return {
    name := table.name
    columns := table.columns.map (liveColumn names isBinding)
    indices := indices.map (·.2)
    hasRowId := table.hasRowId }

/-- True when the table counts its rows upwards for ever. -/
def isCounting (table : TableDefinition) : Bool := table.keys.any (·.isCounting)

end TableDefinition

end TodoLedger.Sql

namespace TodoLedger.Schema

open Sql

/-! ### Indices -/

namespace LiveTable

/-- What the terms of an index may use. -/
def termScope (table : LiveTable) : Scope :=
  ⟨table.name, table.columnNames, false, false, true⟩

/-- What the condition of an index may use. -/
def conditionScope (table : LiveTable) : Scope :=
  ⟨table.name, table.columnNames, table.hasRowId, true, true⟩

/-- True when the table can be indexed by a term. -/
def canSortBy (table : LiveTable) (term : Term) : Bool :=
  let e := term.expr.asColumn
  !term.hasNulls && e.collation?.all (isOneOf collations) && table.termScope.has e && e.isEvaluable

/-- True when the table can have an index. -/
def canHave (table : LiveTable) (index : IndexDefinition) : Bool :=
  index.terms.all table.canSortBy &&
    index.condition.all fun condition =>
      table.conditionScope.has condition && condition.isEvaluable

end LiveTable

end TodoLedger.Schema
