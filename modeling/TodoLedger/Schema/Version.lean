import TodoLedger.Schema.BuiltIn
import TodoLedger.Schema.Execution

/-!
# Versions of a schema

A schema has a version, which is stamped on the database with an offset, so that the database of
another program is never taken for one of ours. `Versioned.create` makes the tables,
`Versioned.validate` tells whether the tables that exist are those of the schema: the same columns
in the same order, and at least the declared indices.
-/

namespace TodoLedger.Schema

/-- Tables of one version. -/
structure Versioned where
  version : Nat
  tables : List Table
deriving DecidableEq, Repr

/-! ### Validation -/

/-- How the existing tables differ from the declared ones. -/
inductive Flaw where
  /-- The name of the table is no name. -/
  | unnamed (table : String)
  | missingTable (table : String)
  | columnCount (table : String) (found : List String) (expected : Nat)
  | columnName (table expected found : String)
  | columnType (table column : String) (expected : ColumnType) (found : String)
  | columnNull (table column : String) (expected found : Bool)
  | columnKey (table column : String) (expected found : Bool)
  | missingIndex (table index : String)
deriving DecidableEq, Repr

namespace Flaw

/-- The flaw as the cause of a fault. A name that is none is refused by the database. -/
def cause : Flaw → Cause
  | .unnamed _ => .refused
  | .missingTable table => .stated ("Table " ++ table ++ " does not exist")
  | .columnCount table found expected =>
    .stated ("Table " ++ table ++ " has " ++ toString found.length ++ " columns, expected " ++
      toString expected ++ " (" ++ ", ".intercalate found ++ ")")
  | .columnName table expected found =>
    .stated ("Table " ++ table ++ " column name mismatch: expected " ++ expected ++ ", got " ++
      found)
  | .columnType table column expected found =>
    .stated ("Table " ++ table ++ " column " ++ column ++ " type mismatch: expected " ++
      expected.title ++ ", got " ++ found)
  | .columnNull table column expected found =>
    .stated ("Table " ++ table ++ " column " ++ column ++ " non-null mismatch: expected " ++
      toString expected ++ ", got " ++ toString found)
  | .columnKey table column expected found =>
    .stated ("Table " ++ table ++ " column " ++ column ++ " primary key mismatch: expected " ++
      toString expected ++ ", got " ++ toString found)
  | .missingIndex table index =>
    .stated ("Table " ++ table ++ " is missing index '" ++ index ++ "'")

end Flaw

/-- How an existing column differs from the declared one. Only the first column of a primary key
counts as such. -/
def columnFlaw? (table : String) (found : LiveColumn) (expected : Column) : Option Flaw :=
  if found.name ≠ expected.name then some (.columnName table expected.name found.name)
  else if found.type ≠ expected.type.declared then
    some (.columnType table expected.name expected.type found.type)
  else if found.nonNull ≠ expected.nonNull then
    some (.columnNull table expected.name expected.nonNull found.nonNull)
  else if (found.keyPosition = 1) ≠ expected.primaryKey then
    some (.columnKey table expected.name expected.primaryKey (found.keyPosition = 1))
  else none

namespace Table

/-- True when the index exists, on the table of exactly that name. -/
def hasIndex (catalog : Catalog) (table index : String) : Bool :=
  catalog.any fun t => t.name = table && t.indices.contains index

/-- The columns that are found under the name of the table, if that is a name. There are none if no
table has it. -/
def foundColumns? (table : Table) (catalog : Catalog) : Option (List LiveColumn) :=
  (Sql.tableOfRequest? table.columnsSql).map fun name =>
    (((catalog ++ builtInTables : Catalog).table? name).map (·.shownColumns)).getD []

/-- How the columns that are found differ from the declared ones. -/
def columnsFlaw? (table : Table) (found : List LiveColumn) : Option Flaw :=
  if found.isEmpty then some (.missingTable table.name)
  else if found.length ≠ table.columns.length then
    some (.columnCount table.name (found.map (·.name)) table.columns.length)
  else (found.zip table.columns).findSome? fun (f, e) => columnFlaw? table.name f e

/-- The first declared index that does not exist. -/
def indexFlaw? (table : Table) (catalog : Catalog) : Option Flaw :=
  (table.indices.find? fun index => !hasIndex catalog table.name index.name).map fun index =>
    .missingIndex table.name index.name

/-- How the tables that exist differ from the declared one. -/
def flaw? (table : Table) (catalog : Catalog) : Option Flaw :=
  match table.foundColumns? catalog with
  | none => some (.unnamed table.name)
  | some found => (table.columnsFlaw? found).or (table.indexFlaw? catalog)

end Table

/-! ### Stamps -/

/-- What is added to a version in its stamp. -/
def stampOffset : Nat := 99999

/-- The stamp of a version. A stamp has 32 bits; a version that does not fit is stamped as zero. -/
def stampOf (version : Nat) : Int :=
  if stampOffset + version ≤ 2147483647 then stampOffset + version else 0

/-- The version in a stamp. -/
def versionOf (stamp : Int) : Except Fault Nat :=
  if stamp < stampOffset then
    .error (.stated ("Database version " ++ toString stamp ++ " does not contain base db version " ++
      toString stampOffset))
  else .ok (stamp - stampOffset).toNat

namespace Versioned

/-- Creates all tables. -/
def create (schema : Versioned) (catalog : Catalog) : Except Fault Catalog :=
  schema.tables.foldlM (fun catalog table => table.create catalog) catalog

/-- Fails unless the tables of the schema exist. -/
def validate (schema : Versioned) (catalog : Catalog) : Except Fault Unit :=
  match schema.tables.findSome? (Table.flaw? · catalog) with
  | some flaw => .error ⟨[.validateSchema schema.version], flaw.cause⟩
  | none => .ok ()

end Versioned

end TodoLedger.Schema
