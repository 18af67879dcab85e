import TodoLedger.Sql.Name

/-!
# The tables that exist

A `Catalog` lists the tables that are really there, with their columns and the names of their
indices. The first operations look tables up, the others change them without asking whether that is
possible.
-/

namespace TodoLedger.Schema

open Sql

/-- A column that exists. -/
structure LiveColumn where
  name : String
  /-- The type as it is reported: a standard one in capitals, or as it was declared. -/
  type : String
  nonNull : Bool
  /-- The place of the column in the primary key, from 1, or 0. -/
  keyPosition : Nat
  /-- True if the column is computed from others; such columns are not shown. -/
  isComputed : Bool := false
deriving DecidableEq, Repr

/-- A table that exists. -/
structure LiveTable where
  name : String
  columns : List LiveColumn
  /-- The names of the indices of the table. -/
  indices : List String
  /-- True if the rows have numbers of their own. -/
  hasRowId : Bool := true
deriving DecidableEq, Repr

/-- The names of all columns. -/
def LiveTable.columnNames (table : LiveTable) : List String := table.columns.map (·.name)

/-- The columns that are shown. -/
def LiveTable.shownColumns (table : LiveTable) : List LiveColumn :=
  table.columns.filter (!·.isComputed)

/-- The tables of a database. -/
abbrev Catalog := List LiveTable

namespace Catalog

/-- The table of that name. -/
def table? (catalog : Catalog) (name : String) : Option LiveTable :=
  catalog.find? (sameName ·.name name)

/-- True when an index has that name. -/
def hasIndex (catalog : Catalog) (name : String) : Bool :=
  catalog.any fun table => isOneOf table.indices name

/-- Changes the table of that name. -/
def modify (catalog : Catalog) (name : String) (change : LiveTable → LiveTable) : Catalog :=
  catalog.map fun table => if sameName table.name name then change table else table

/-- Adds a column at the end of a table. -/
def addColumn (catalog : Catalog) (table : String) (column : LiveColumn) : Catalog :=
  catalog.modify table fun t => { t with columns := t.columns ++ [column] }

/-- Gives a column another name. -/
def renameColumn (catalog : Catalog) (table old new : String) : Catalog :=
  catalog.modify table fun t =>
    { t with columns := t.columns.map fun c => if sameName c.name old then { c with name := new } else c }

/-- Adds an index to a table. -/
def addIndex (catalog : Catalog) (table index : String) : Catalog :=
  catalog.modify table fun t => { t with indices := t.indices ++ [index] }

/-- Removes an index. -/
def dropIndex (catalog : Catalog) (name : String) : Catalog :=
  catalog.map fun table => { table with indices := table.indices.filter (!sameName · name) }

/-- Removes a table with its indices. -/
def dropTable (catalog : Catalog) (name : String) : Catalog :=
  catalog.filter (!sameName ·.name name)

end Catalog

end TodoLedger.Schema
