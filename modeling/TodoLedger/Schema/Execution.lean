import TodoLedger.Error
import TodoLedger.Schema.Definition
import TodoLedger.Schema.Table
import TodoLedger.Sql.Statement.Parser

/-!
# Carrying out statements

`Catalog.execute?` changes the tables that exist as a statement says, or refuses. `Table.create`
makes a declared table with its indices, statement by statement.
-/

namespace TodoLedger.Schema

open Sql

/-- The table in which the database keeps how far tables have counted. -/
def sequenceTable : LiveTable where
  name := "sqlite_sequence"
  columns := [⟨"name", "", false, 0, false⟩, ⟨"seq", "", false, 0, false⟩]
  indices := []

namespace Catalog

/-- Adds a new table, and the table for counting if that is wanted for the first time. -/
def addTable (catalog : Catalog) (table : LiveTable) (isCounting : Bool) : Catalog :=
  if isCounting && (catalog.table? sequenceTable.name).isNone then catalog ++ [table, sequenceTable]
  else catalog ++ [table]

/-- Creates a table. A temporary one is not kept. -/
def createTable? (catalog : Catalog) (ifNew : Bool) (place : Place) (table : TableDefinition) :
    Option Catalog :=
  if isInternal table.name then none
  else if place = .temporary then table.live?.map fun _ => catalog
  else if (catalog.table? table.name).isSome then if ifNew then some catalog else none
  else if catalog.hasIndex table.name then none
  else table.live?.map (catalog.addTable · table.isCounting)

/-- Creates an index. A table that is not temporary has none that is. -/
def createIndex? (catalog : Catalog) (ifNew : Bool) (place : Place) (index : IndexDefinition) :
    Option Catalog := do
  let table ← catalog.table? index.table
  if isInternal table.name || isInternal index.name || place = .temporary then none
  else if (catalog.table? index.name).isSome then none
  else if catalog.hasIndex index.name then if ifNew then some catalog else none
  else if table.canHave index then some (catalog.addIndex table.name index.name)
  else none

/-- Adds a column to a table that exists. Such a column is no key. -/
def widen? (catalog : Catalog) (table : String) (column : ColumnDefinition) : Option Catalog := do
  let found ← catalog.table? table
  let isKey := column.rules.any fun
    | .unique | .primaryKey _ _ => true
    | _ => false
  if column.isPossible && !isKey && !isOneOf found.columnNames column.name then
    some (catalog.addColumn found.name (TableDefinition.liveColumn [] false column))
  else none

/-- Carries out a statement, if that is possible. -/
def execute? (catalog : Catalog) : Statement → Option Catalog
  | .createTable ifNew place table => catalog.createTable? ifNew place table
  | .createIndex ifNew place index => catalog.createIndex? ifNew place index
  | .dropTable ifThere name =>
    if ifThere || (catalog.table? name).isSome then some (catalog.dropTable name) else none
  | .dropIndex ifThere name =>
    if ifThere || catalog.hasIndex name then some (catalog.dropIndex name) else none
  | .addColumn table column => catalog.widen? table column
  | .renameColumn table old new =>
    if (catalog.table? table).any (isOneOf ·.columnNames old) then
      some (catalog.renameColumn table old new)
    else none

/-- Carries out the statement in a text. -/
def run? (catalog : Catalog) (text : List Char) : Option Catalog :=
  (Statement.ofText? text).bind catalog.execute?

end Catalog

namespace Table

/-- Creates indices of a declared table. -/
def createIndices (table : Table) : List Index → Catalog → Except Fault Catalog
  | [], catalog => .ok catalog
  | index :: rest, catalog =>
    match catalog.run? (table.createIndexSql index) with
    | some catalog => table.createIndices rest catalog
    | none => .error ⟨[.createIndex index.name], .refused⟩

/-- Creates a declared table with its indices. -/
def create (table : Table) (catalog : Catalog) : Except Fault Catalog :=
  match catalog.run? table.createSql with
  | some catalog => table.createIndices table.indices catalog
  | none => .error ⟨[.createTable table.name], .refused⟩

end Table

end TodoLedger.Schema
