/-!
# Declared tables

What a schema says about a table: its columns, which combinations of columns are unique, and its
indices. `Table.createSql` and `Table.createIndexSql` are the statements that create the table and an
index of it, `Table.columnsSql` asks for its columns.
-/

namespace TodoLedger.Schema

/-- What a column holds. -/
inductive ColumnType where
  | text
  | integer
deriving DecidableEq, Repr

namespace ColumnType

/-- The type as it is declared. -/
def declared : ColumnType → String
  | .text => "TEXT"
  | .integer => "INTEGER"

/-- The type in a message. -/
def title : ColumnType → String
  | .text => "Text"
  | .integer => "Integer"

end ColumnType

/-- What happens to a row when the row that it refers to is deleted. -/
inductive OnDelete where
  | noAction
  | restrict
  | setNull
  | cascade
deriving DecidableEq, Repr

/-- The clause for what happens on a deletion. -/
def OnDelete.sql : OnDelete → List Char
  | .noAction => "NO ACTION".toList
  | .restrict => "RESTRICT".toList
  | .setNull => "SET NULL".toList
  | .cascade => "CASCADE".toList

/-- The column of another table to which a column refers. -/
structure ForeignKey where
  table : String
  column : String
  onDelete : OnDelete
deriving DecidableEq, Repr

/-- A declared column. -/
structure Column where
  name : String
  type : ColumnType
  primaryKey : Bool := false
  nonNull : Bool := false
  unique : Bool := false
  /-- The default as an expression. -/
  default : Option String := none
  foreignKey : Option ForeignKey := none
deriving DecidableEq, Repr

/-- A declared index, with its columns as they stand in the statement. -/
structure Index where
  name : String
  columns : String
deriving DecidableEq, Repr

/-- A declared table. -/
structure Table where
  name : String
  columns : List Column
  indices : List Index := []
  /-- Combinations of columns that are unique. -/
  unique : List (List String) := []
deriving DecidableEq, Repr

/-! ### Statements -/

/-- A clause that is written if a flag is set. -/
def clause (flag : Bool) (text : String) : List Char := if flag then text.toList else []

/-- Texts with commas between them. -/
def commaList (texts : List (List Char)) : List Char := [',', ' '].intercalate texts

namespace ForeignKey

/-- The clause for the reference. -/
def sql (key : ForeignKey) : List Char :=
  " REFERENCES ".toList ++ key.table.toList ++ '(' :: key.column.toList ++ ") ON DELETE ".toList ++
    key.onDelete.sql

end ForeignKey

namespace Column

/-- The definition of the column. -/
def sql (column : Column) : List Char :=
  column.name.toList ++ ' ' :: column.type.declared.toList ++
    clause column.primaryKey " PRIMARY KEY" ++
    clause column.nonNull " NOT NULL" ++
    clause column.unique " UNIQUE" ++
    (match column.default with | some value => " DEFAULT ".toList ++ value.toList | none => []) ++
    (match column.foreignKey with | some key => key.sql | none => [])

end Column

namespace Table

/-- The clause for columns that are unique together. -/
def uniqueSql (columns : List String) : List Char :=
  "UNIQUE (".toList ++ commaList (columns.map String.toList) ++ [')']

/-- The statement that creates the table. -/
def createSql (table : Table) : List Char :=
  "CREATE TABLE ".toList ++ table.name.toList ++ " (".toList ++
    commaList (table.columns.map Column.sql ++ table.unique.map uniqueSql) ++ ");".toList

/-- The statement that creates an index of the table. -/
def createIndexSql (table : Table) (index : Index) : List Char :=
  "CREATE INDEX ".toList ++ index.name.toList ++ " ON ".toList ++ table.name.toList ++
    '(' :: index.columns.toList ++ ");".toList

/-- The request for the columns of the table. -/
def columnsSql (table : Table) : List Char :=
  "PRAGMA table_info(".toList ++ table.name.toList ++ ");".toList

end Table

end TodoLedger.Schema
