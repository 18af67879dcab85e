import TodoLedger.Database.Snapshot
import TodoLedger.Json.Parser
import TodoLedger.Json.Printer

/-!
# Databases as text

The form in which the program keeps a database in a file: one JSON object with the stamp, the tables
that exist, and the rows of each table as lists of values. `Stored.ofText` tells what a file holds;
one of no length holds a database without tables.
-/

namespace TodoLedger

namespace Json

/-- A signed 64-bit number. -/
def ofInt64 (n : Int64) : Json := .int n.toInt

/-- Reads a signed 64-bit number. -/
def int64? : Json → Option Int64
  | .int n =>
    if Int64.minValue.toInt ≤ n ∧ n ≤ Int64.maxValue.toInt then some (Int64.ofInt n) else none
  | _ => none

/-- Reads a natural number. -/
def nat? : Json → Option Nat
  | .int n => if 0 ≤ n then some n.toNat else none
  | _ => none

/-- Reads a field of an object. -/
def field? {α : Type} (name : String) (decode : Json → Option α) : Json → Option α
  | .object fields => (fields.lookup name).bind decode
  | _ => none

end Json

open Json (ofInt64 int64? nat? field? text? bool? option? ofOption list?)

namespace UserRow

/-- The row of a user as a list of its columns. -/
def toJson (row : UserRow) : Json :=
  .list [ofInt64 row.id, .string row.handle, .bool row.admin, ofInt64 row.pending, ofInt64 row.done]

/-- Reads the row of a user. -/
def ofJson? : Json → Option UserRow
  | .list [id, handle, admin, pending, done] => do
    return ⟨← int64? id, ← text? handle, ← bool? admin, ← int64? pending, ← int64? done⟩
  | _ => none

end UserRow

namespace ProjectRow

/-- The row of a project as a list of its columns. -/
def toJson (row : ProjectRow) : Json :=
  .list [ofInt64 row.id, .string row.name, .string row.visibility, row.repositoryPrivate.toJson]

/-- Reads the row of a project. -/
def ofJson? : Json → Option ProjectRow
  | .list [id, name, visibility, repositoryPrivate] => do
    return ⟨← int64? id, ← text? name, ← text? visibility, ← Cell.ofJson? repositoryPrivate⟩
  | _ => none

end ProjectRow

namespace MemberRow

/-- The row of a member as a list of its columns. -/
def toJson (row : MemberRow) : Json :=
  .list [row.projectId.toJson, row.userId.toJson, row.accessLevel.toJson]

/-- Reads the row of a member. -/
def ofJson? : Json → Option MemberRow
  | .list [project, user, level] => do
    return ⟨← Cell.ofJson? project, ← Cell.ofJson? user, ← Cell.ofJson? level⟩
  | _ => none

end MemberRow

namespace TodoRow

/-- The row of a to-do as a list of its columns. -/
def toJson (row : TodoRow) : Json :=
  .list [ofInt64 row.id, row.userId.toJson, row.authorId.toJson, row.projectId.toJson,
    .string row.targetKind, ofOption Cell.toJson row.targetId, ofOption .string row.commitId,
    ofOption Cell.toJson row.noteId, row.action.toJson, .string row.state,
    ofOption .string row.resolution, row.createdAt.toJson, row.updatedAt.toJson]

/-- Reads the row of a to-do. -/
def ofJson? : Json → Option TodoRow
  | .list [id, user, author, project, kind, target, commit, note, action, state, resolution,
      created, updated] => do
    return {
      id := ← int64? id
      userId := ← Cell.ofJson? user
      authorId := ← Cell.ofJson? author
      projectId := ← Cell.ofJson? project
      targetKind := ← text? kind
      targetId := ← option? Cell.ofJson? target
      commitId := ← option? text? commit
      noteId := ← option? Cell.ofJson? note
      action := ← Cell.ofJson? action
      state := ← text? state
      resolution := ← option? text? resolution
      createdAt := ← Cell.ofJson? created
      updatedAt := ← Cell.ofJson? updated }
  | _ => none

end TodoRow

namespace Schema

/-- A column as a list of its properties. -/
def LiveColumn.toJson (column : LiveColumn) : Json :=
  .list [.string column.name, .string column.type, .bool column.nonNull, .int column.keyPosition,
    .bool column.isComputed]

/-- Reads a column. -/
def LiveColumn.ofJson? : Json → Option LiveColumn
  | .list [name, type, nonNull, position, isComputed] => do
    return ⟨← text? name, ← text? type, ← bool? nonNull, ← nat? position, ← bool? isComputed⟩
  | _ => none

/-- A table as a list of its properties. -/
def LiveTable.toJson (table : LiveTable) : Json :=
  .list [.string table.name, .list (table.columns.map LiveColumn.toJson),
    .list (table.indices.map .string), .bool table.hasRowId]

/-- Reads a table. -/
def LiveTable.ofJson? : Json → Option LiveTable
  | .list [name, columns, indices, hasRowId] => do
    return ⟨← text? name, ← list? LiveColumn.ofJson? columns, ← list? text? indices, ← bool? hasRowId⟩
  | _ => none

end Schema

namespace Snapshot

/-- A database file as an object: its stamp, its tables and their rows. -/
def toJson (snapshot : Snapshot) : Json :=
  .object [("stamp", .int snapshot.stamp),
    ("tables", .list (snapshot.catalog.map Schema.LiveTable.toJson)),
    ("users", .list (snapshot.content.users.map UserRow.toJson)),
    ("projects", .list (snapshot.content.projects.map ProjectRow.toJson)),
    ("members", .list (snapshot.content.members.map MemberRow.toJson)),
    ("todos", .list (snapshot.content.todos.map TodoRow.toJson))]

/-- Reads a database file. -/
def ofJson? (value : Json) : Option Snapshot := do
  let stamp ← field? "stamp" (fun | .int n => some n | _ => none) value
  let catalog ← field? "tables" (list? Schema.LiveTable.ofJson?) value
  let users ← field? "users" (list? UserRow.ofJson?) value
  let projects ← field? "projects" (list? ProjectRow.ofJson?) value
  let members ← field? "members" (list? MemberRow.ofJson?) value
  let todos ← field? "todos" (list? TodoRow.ofJson?) value
  return ⟨stamp, catalog, ⟨users, projects, members, todos⟩⟩

/-- The text of a file that holds the database. -/
def toText (snapshot : Snapshot) : String := snapshot.toJson.compact

end Snapshot

/-- What a file with this text holds. -/
def Stored.ofText (text : String) : Stored :=
  if text.isEmpty then .holds .empty
  else
    match (Json.parse text).bind Snapshot.ofJson? with
    | some snapshot => .holds snapshot
    | none => .foreign

end TodoLedger
