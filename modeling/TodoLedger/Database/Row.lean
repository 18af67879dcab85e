import TodoLedger.Database.Cell

/-!
# The tables

A `Database` holds the rows of four tables: users, projects, members and to-dos. Choices are kept as
their names or codes, and numbers in cells, so a row can hold a value that no reader understands;
`TodoRow.read` tells the first such value. `TodoRow.points` is the one test for "this row is on that
target".
-/

namespace TodoLedger

/-! ### Ids of rows -/

/-- True when a set of ids names the row. A set reaches the tables as decimal numbers, of which
those above `2^63 - 1` are no row's id. -/
def isNamed (ids : List UInt64) (id : Int64) : Bool := 0 ≤ id && ids.contains (idOfRow id)

/-- The id of the next row of a table: one more than the greatest. After the greatest possible id,
the least positive one that is free; when all are taken, an id that is taken. -/
def nextRowId (ids : List Int64) : Int64 :=
  match ids with
  | [] => 1
  | first :: rest =>
    let greatest := rest.foldl (fun a b => if a < b then b else a) first
    if greatest < Int64.maxValue then greatest + 1
    else
      let candidates := (List.range (ids.length + 1)).map fun n => Int64.ofNat (n + 1)
      (candidates.find? fun id => 0 < id && !ids.contains id).getD 1

/-- The id of the next row of a table, if the table can take one more row. -/
def freeRowId? (ids : List Int64) : Option Int64 :=
  let id := nextRowId ids
  if ids.contains id then none else some id

/-! ### Rows -/

/-- A row of the table of users, with the cached numbers of their to-dos. -/
structure UserRow where
  id : Int64
  handle : String
  admin : Bool
  pending : Int64 := 0
  done : Int64 := 0
deriving DecidableEq, Repr

/-- A row of the table of projects. -/
structure ProjectRow where
  id : Int64
  name : String
  /-- The name of a visibility. -/
  visibility : String
  /-- True unless it is zero. -/
  repositoryPrivate : Cell
deriving DecidableEq, Repr

/-- A row of the table of members. -/
structure MemberRow where
  projectId : Cell
  userId : Cell
  /-- The code of an access level. -/
  accessLevel : Cell
deriving DecidableEq, Repr

/-- A row of the table of to-dos. -/
structure TodoRow where
  id : Int64
  userId : Cell
  authorId : Cell
  projectId : Cell
  /-- The name of the target's kind. -/
  targetKind : String
  targetId : Option Cell
  commitId : Option String
  noteId : Option Cell
  /-- The code of the action. -/
  action : Cell
  /-- The name of the state. -/
  state : String
  /-- The name of the resolution. -/
  resolution : Option String
  /-- Seconds from the start of 1970. -/
  createdAt : Cell
  updatedAt : Cell
deriving DecidableEq, Repr

/-- All tables. Rows stand in the order in which they were put in. -/
structure Database where
  users : List UserRow := []
  projects : List ProjectRow := []
  members : List MemberRow := []
  todos : List TodoRow := []
deriving DecidableEq, Repr

/-- The database without any rows. -/
def Database.empty : Database := {}

namespace UserRow

/-- The user of the row. -/
def read (row : UserRow) : User :=
  ⟨idOfRow row.id, row.handle, row.admin, idOfRow row.pending, idOfRow row.done⟩

/-- The cached numbers of the user's to-dos. -/
def counts (row : UserRow) : Counts := ⟨idOfRow row.pending, idOfRow row.done⟩

end UserRow

namespace ProjectRow

/-- The project of the row; its visibility may be in capitals. -/
def read (row : ProjectRow) : Except Cause Project := do
  let some visibility := Visibility.ofName? row.visibility
    | throw (.unreadable (.visibility row.visibility))
  return ⟨idOfRow row.id, row.name, visibility, (← row.repositoryPrivate.integer?) ≠ 0⟩

end ProjectRow

namespace MemberRow

/-- The level of the member. A code that does not fit into 32 bits is refused before it is read. -/
def readLevel (row : MemberRow) : Except Cause AccessLevel := do
  let code ← row.accessLevel.integer?
  if code < -2147483648 || 2147483647 < code then throw .refused
  let some level := AccessLevel.ofCode? code | throw (.unreadable (.accessLevel code))
  return level

/-- The member of the row. -/
def read (row : MemberRow) : Except Cause Member := do
  return ⟨← row.projectId.id?, ← row.userId.id?, ← row.readLevel⟩

end MemberRow

namespace TodoRow

/-- True of a row whose to-do is not done. -/
def isPending (row : TodoRow) : Bool := row.state = TodoState.pending.name

/-- True of a row whose to-do is done. -/
def isDone (row : TodoRow) : Bool := row.state = TodoState.done.name

/-- True when the row belongs to the user. -/
def belongsTo (row : TodoRow) (user : UserId) : Bool := row.userId = .ofId user

/-- True when the row is on the target. -/
def points (row : TodoRow) (target : TargetRef) : Bool :=
  row.targetKind = target.kind.name && row.targetId = target.targetId.map .ofId &&
    row.commitId = target.commitId

/-- The to-do of the row, or why it cannot be read: the choices are read first. -/
def read (row : TodoRow) : Except Cause Todo := do
  let some kind := TargetKind.ofName? row.targetKind
    | throw (.unreadable (.targetKind row.targetKind))
  let code ← row.action.integer?
  let some action := Action.ofCode? code | throw (.unreadable (.action code))
  let some state := TodoState.ofName? row.state | throw (.unreadable (.state row.state))
  let resolution ← match row.resolution with
    | none => pure none
    | some name =>
      match Resolution.ofName? name with
      | some resolution => pure (some resolution)
      | none => throw (.unreadable (.resolution name))
  return {
    id := idOfRow row.id
    userId := ← row.userId.id?
    authorId := ← row.authorId.id?
    projectId := ← row.projectId.id?
    target := ⟨kind, ← row.targetId.mapM Cell.id?, row.commitId⟩
    noteId := ← row.noteId.mapM Cell.id?
    action, state, resolution
    createdAt := .ofSeconds (← row.createdAt.integer?).toInt
    updatedAt := .ofSeconds (← row.updatedAt.integer?).toInt }

/-- The row of a new to-do, which is pending. -/
def ofNew (id now : Int64) (todo : NewTodo) : TodoRow where
  id := id
  userId := .ofId todo.userId
  authorId := .ofId todo.authorId
  projectId := .ofId todo.projectId
  targetKind := todo.target.kind.name
  targetId := todo.target.targetId.map .ofId
  commitId := todo.target.commitId
  noteId := todo.noteId.map .ofId
  action := .integer todo.action.code
  state := TodoState.pending.name
  resolution := none
  createdAt := .integer now
  updatedAt := .integer now

/-- The row after its to-do became done. -/
def resolved (now : Int64) (resolution : Resolution) (row : TodoRow) : TodoRow :=
  { row with state := TodoState.done.name, resolution := some resolution.name, updatedAt := .integer now }

/-- The row after its to-do became pending again. -/
def restored (now : Int64) (row : TodoRow) : TodoRow :=
  { row with state := TodoState.pending.name, resolution := none, updatedAt := .integer now }

end TodoRow

end TodoLedger
