import TodoLedger.Schema.Version

/-!
# The versions of the database

Version 0 has users, projects, members and to-dos. Version 1 keeps the numbers of pending and done
to-dos with each user.
-/

namespace TodoLedger.Schema

/-- The present time, as a default. -/
def timeDefault : String := "(cast(strftime('%s','now') as int))"

/-- A column that refers to users. -/
def userColumn (name : String) : Column where
  name := name
  type := .integer
  nonNull := true
  foreignKey := some ⟨"user", "id", .cascade⟩

/-- A column that refers to projects. -/
def projectColumn (name : String) : Column where
  name := name
  type := .integer
  nonNull := true
  foreignKey := some ⟨"project", "id", .cascade⟩

/-- The column for the number of a user's to-dos in one state. -/
def countColumn (name : String) : Column :=
  { name, type := .integer, nonNull := true, default := some "0" }

/-- The number of a user's pending to-dos. -/
def pendingColumn : Column := countColumn "todos_pending_count"

/-- The number of a user's to-dos that are done. -/
def doneColumn : Column := countColumn "todos_done_count"

/-- Users without the numbers of their to-dos. -/
def userTable : Table where
  name := "user"
  columns := [
    { name := "id", type := .integer, primaryKey := true },
    { name := "handle", type := .text, nonNull := true, unique := true },
    { name := "admin", type := .integer, nonNull := true, default := some "0" },
    { name := "created", type := .integer, default := some timeDefault }]

/-- Users with the numbers of their to-dos. -/
def countingUserTable : Table :=
  { userTable with columns := userTable.columns ++ [pendingColumn, doneColumn] }

/-- Projects, each with a name of its own. -/
def projectTable : Table where
  name := "project"
  columns := [
    { name := "id", type := .integer, primaryKey := true },
    { name := "name", type := .text, nonNull := true, unique := true },
    { name := "visibility", type := .text, nonNull := true },
    { name := "repository_private", type := .integer, nonNull := true, default := some "0" }]

/-- Members of projects, each once in a project. -/
def memberTable : Table where
  name := "project_member"
  columns := [
    projectColumn "project_id", userColumn "user_id",
    { name := "access_level", type := .integer, nonNull := true }]
  indices := [⟨"idx_project_member_user", "user_id"⟩]
  unique := [["project_id", "user_id"]]

/-- To-dos, with the columns of a target's reference. -/
def todoTable : Table where
  name := "todo"
  columns := [
    { name := "id", type := .integer, primaryKey := true },
    userColumn "user_id", userColumn "author_id", projectColumn "project_id",
    { name := "target_type", type := .text, nonNull := true },
    { name := "target_id", type := .integer },
    { name := "commit_id", type := .text },
    { name := "note_id", type := .integer },
    { name := "action", type := .integer, nonNull := true },
    { name := "state", type := .text, nonNull := true },
    { name := "resolved_by_action", type := .text },
    { name := "created_at", type := .integer, nonNull := true, default := some timeDefault },
    { name := "updated_at", type := .integer, nonNull := true, default := some timeDefault }]
  indices := [⟨"idx_todo_user_state", "user_id, state"⟩,
    ⟨"idx_todo_target", "target_type, target_id, commit_id"⟩]

/-- The first version. -/
def first : Versioned := ⟨0, [userTable, projectTable, memberTable, todoTable]⟩

/-- The present version. -/
def latest : Versioned := ⟨1, [countingUserTable, projectTable, memberTable, todoTable]⟩

/-- The statements that give users the numbers of their to-dos. -/
def migration : List (List Char) :=
  [pendingColumn, doneColumn].map fun column => "ALTER TABLE user ADD COLUMN ".toList ++ column.sql

/-- All versions. -/
def history : List Versioned := [first, latest]

/-- True of the versions that older databases are brought to. -/
def migrates (schema : Versioned) : Bool := schema.version ≠ first.version

end TodoLedger.Schema
