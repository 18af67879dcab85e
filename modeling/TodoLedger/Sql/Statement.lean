import TodoLedger.Sql.Expr

/-!
# Statements

What the statements that define tables and indices say: columns with their rules, the rules of a
table as a whole, and the terms of an index. Whether a definition can be carried out is not decided
here.
-/

namespace TodoLedger.Sql

/-- A rule for a single column. -/
inductive ColumnRule where
  | default (value : Expr)
  | nonNull
  | unique
  /-- The key of the table, perhaps in descending order and perhaps counting upwards for ever. -/
  | primaryKey (isDescending isCounting : Bool)
  | check (condition : Expr)
  /-- A reference to another table, with the number of columns that it names there. -/
  | references (targets : Nat)
  | collation (name : String)
  /-- The column is computed from others, when a row is stored or whenever it is read. -/
  | computed (value : Expr) (isStored : Bool)
  /-- What is accepted and has no effect on the table. -/
  | neutral
deriving Repr

/-- The definition of a column, with its type as it is written. -/
structure ColumnDefinition where
  name : String
  type : String
  rules : List ColumnRule
deriving Repr

/-- A rule for a table as a whole. -/
inductive TableRule where
  | primaryKey (terms : List Term) (isCounting : Bool)
  | unique (terms : List Term)
  | check (condition : Expr)
  /-- A reference to another table: the columns here and the number of those named there. -/
  | foreignKey (columns : List String) (targets : Nat)
  | neutral
deriving Repr

/-- How the rows of a table are kept. -/
inductive TableOption where
  /-- Rows have no numbers of their own. -/
  | withoutRowId
  /-- Types are binding. -/
  | strict
deriving DecidableEq, Repr

/-- The definition of a table. -/
structure TableDefinition where
  name : String
  columns : List ColumnDefinition
  rules : List TableRule
  options : List TableOption
deriving Repr

/-- The definition of an index. -/
structure IndexDefinition where
  name : String
  table : String
  terms : List Term
  /-- The rows that the index covers, unless it covers all. -/
  condition : Option Expr
deriving Repr

/-- The database that a statement names in front of what it defines. -/
inductive Place where
  | main
  | temporary
deriving DecidableEq, Repr

/-- A statement that defines something or does away with it. -/
inductive Statement where
  /-- With `ifNew`, a statement for what is there already has no effect. -/
  | createTable (ifNew : Bool) (place : Place) (definition : TableDefinition)
  | createIndex (ifNew : Bool) (place : Place) (definition : IndexDefinition)
  /-- With `ifThere`, a statement for what is not there has no effect. -/
  | dropTable (ifThere : Bool) (name : String)
  | dropIndex (ifThere : Bool) (name : String)
  | addColumn (table : String) (column : ColumnDefinition)
  | renameColumn (table old new : String)
deriving Repr

end TodoLedger.Sql
