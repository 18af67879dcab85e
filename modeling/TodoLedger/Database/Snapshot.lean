import TodoLedger.Ledger.Batch
import TodoLedger.Schema.History

/-!
# Opening a database

A `Snapshot` is a database as it is stored: with the stamp of its version and the tables that exist.
`Stored.load` opens one. A new one is created in the present version; a database of the first
version is brought to the present one, with the numbers of to-dos counted for every user; any other
version, and tables that are not those of the stamped version, are refused.
-/

namespace TodoLedger

/-- A database as it is stored. -/
structure Snapshot where
  stamp : Int
  catalog : Schema.Catalog
  content : Database
deriving DecidableEq, Repr

/-- What is found where a database should be. -/
inductive Stored where
  | missing
  /-- What cannot be opened, such as a directory. -/
  | closed
  /-- A file that holds something else. -/
  | foreign
  | holds (snapshot : Snapshot)
deriving DecidableEq, Repr

namespace Snapshot

open Schema

/-- No tables and no stamp, as in a file of no length. -/
def empty : Snapshot := ⟨0, [], .empty⟩

/-- Makes the tables of a schema, without rows, beside those that exist. -/
def extend (schema : Versioned) (snapshot : Snapshot) : Except Fault Snapshot := do
  let catalog ← schema.create snapshot.catalog
  return { snapshot with stamp := stampOf schema.version, catalog }

/-- A database without rows in the tables of a schema. -/
def create (schema : Versioned) : Except Fault Snapshot := empty.extend schema

/-- Adds a column. The two columns with numbers of to-dos start with a given number in all rows. -/
def addColumn (snapshot : Snapshot) (table : String) (column : LiveColumn) (value : Int64) :
    Snapshot :=
  let users := snapshot.content.users
  let users :=
    if table ≠ userTable.name then users
    else if column.name = pendingColumn.name then users.map ({ · with pending := value })
    else if column.name = doneColumn.name then users.map ({ · with done := value })
    else users
  { snapshot with
    catalog := snapshot.catalog.addColumn table column
    content := { snapshot.content with users } }

/-- The whole number that a default gives to a column for such numbers. -/
def defaultNumber? : Sql.Expr → Option Int64
  | .literal text =>
    match text.toList.filter (· ≠ '_') with
    | '0' :: 'x' :: digits | '0' :: 'X' :: digits =>
      some (Int64.ofNat (digits.foldl (fun n c => n * 16 + (Json.hexValue? c).getD 0) 0))
    | digits => ofText? (String.ofList digits)
  | .string text => ofText? text
  | .name text _ => some (if Sql.sameName text "true" then 1 else 0)
  | _ => none
where
  ofText? (text : String) : Option Int64 :=
    (Cell.ofJson? (.string text)).bind (·.integer?.toOption)

/-- The number that a new column holds in the rows that are there. -/
def initialNumber (column : Sql.ColumnDefinition) : Int64 :=
  column.rules.foldl (fun last rule => match rule with
    | .default value => (defaultNumber? value).getD 0
    | _ => last) 0

/-- Carries out a statement, if that is possible. -/
def execute? (snapshot : Snapshot) (statement : Sql.Statement) : Option Snapshot := do
  let catalog ← snapshot.catalog.execute? statement
  match statement with
  | .addColumn name column =>
    let table ← snapshot.catalog.table? name
    let live := Sql.TableDefinition.liveColumn [] false column
    return snapshot.addColumn table.name live (initialNumber column)
  | _ => return { snapshot with catalog }

/-- Carries out the statement in a text. -/
def run? (snapshot : Snapshot) (text : List Char) : Option Snapshot :=
  (Sql.Statement.ofText? text).bind snapshot.execute?

/-- Counts the to-dos of every user. -/
def recountAll (db : Database) : Database := { db with users := db.users.map (Ledger.recount db) }

/-- Brings a database of the first version to the present one: all or nothing. -/
def migrate (snapshot : Snapshot) : Except Fault Snapshot :=
  match migration.foldlM run? snapshot with
  | some widened =>
    .ok { widened with stamp := stampOf latest.version, content := recountAll widened.content }
  | none => .error ⟨[.migrate latest.version], .refused⟩

/-- Opens a database that exists. -/
def load (snapshot : Snapshot) : Except Fault Snapshot := do
  let version ← versionOf snapshot.stamp
  let some schema := history.find? (·.version = version)
    | throw (.stated ("Unknown to-do database version " ++ toString version))
  match schema.validate snapshot.catalog with
  | .error fault => throw (fault.within (.validateDatabase version))
  | .ok () =>
    if version < latest.version then
      let migrated ← snapshot.migrate
      latest.validate migrated.catalog
      return migrated
    else return snapshot

end Snapshot

namespace Stored

/-- Opens a database that exists. -/
def load : Stored → Except Fault Snapshot
  | .missing => Snapshot.empty.load
  | .closed => .error ⟨[.openDatabase], .refused⟩
  | .foreign => .error ⟨[.readVersion], .refused⟩
  | .holds snapshot => snapshot.load

/-- The step at which a new database fails if its file cannot take tables. -/
def firstStep : List Step := (Schema.latest.tables.take 1).map (.createTable ·.name)

/-- Creates a new database. -/
def create : Stored → Except Fault Snapshot
  | .missing => Snapshot.create Schema.latest
  | .closed => .error ⟨[.openDatabase], .refused⟩
  | .foreign => .error ⟨firstStep, .refused⟩
  | .holds snapshot => snapshot.extend Schema.latest

/-- Opens a database, or creates it if it is new. -/
def start (stored : Stored) : Except Fault Snapshot :=
  if stored = .missing then stored.create else stored.load

end Stored

end TodoLedger
