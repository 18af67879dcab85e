import TodoLedger.Ascending
import TodoLedger.Ledger.Op

/-!
# One step of the ledger

`step` applies one op to a database. It answers with a `Change`: the database afterwards, the
effect, and the users whose rows changed, whose cached numbers are then out of date. An op that
fails gives no database at all.
-/

namespace TodoLedger.Ledger

/-- What one op does to a database. -/
structure Change where
  database : Database
  effect : Effect
  /-- The users whose to-dos changed. -/
  touched : List UserId

/-! ### New to-dos -/

/-- True of a row that stands in the way of the new to-do. -/
def blocks (row : TodoRow) (todo : NewTodo) : Bool :=
  row.belongsTo todo.userId && row.isPending && row.points todo.target &&
    todo.action.conflicts.any (row.action = .integer ·.code)

/-- True when recipient, author and project of the new to-do exist. -/
def admits (db : Database) (todo : NewTodo) : Bool :=
  db.users.any (·.id = rowId todo.userId) && db.users.any (·.id = rowId todo.authorId) &&
    db.projects.any (·.id = rowId todo.projectId)

/-- Puts in a new to-do, unless a row stands in its way. -/
def upsert (now : Int64) (todo : NewTodo) (db : Database) : Except Error Change :=
  if db.todos.any (blocks · todo) then .ok ⟨db, .created none, []⟩
  else
    match freeRowId? (db.todos.map (·.id)) with
    | none => .error (.store ⟨[.insertTodo todo.userId], .refused⟩)
    | some id =>
      if admits db todo then
        .ok ⟨{ db with todos := db.todos ++ [TodoRow.ofNew id now todo] },
          .created (some (idOfRow id)), [todo.userId]⟩
      else .error (.store ⟨[.insertTodo todo.userId], .foreignKey⟩)

/-! ### Changes of state -/

/-- The ids of rows, ascending. -/
def idsOf (rows : List TodoRow) : List TodoId := ascending (rows.map (idOfRow ·.id))

/-- The owners of rows, which must be readable. -/
def ownersOf (rows : List TodoRow) : Except Error (List UserId) :=
  match rows.mapM (·.userId.id?) with
  | .ok users => .ok users
  | .error cause => .error (.store ⟨[], cause⟩)

/-- Resolves the pending rows among the selected ones. -/
def resolveWhere (now : Int64) (resolution : Resolution) (selected : TodoRow → Bool)
    (db : Database) : Except Error Change := do
  let changes (row : TodoRow) : Bool := row.isPending && selected row
  let rows := db.todos.filter changes
  let users ← ownersOf rows
  let todos := db.todos.map fun row => if changes row then row.resolved now resolution else row
  return ⟨{ db with todos }, .resolved (idsOf rows), users⟩

/-- Makes the done rows among the selected ones pending. -/
def restoreWhere (now : Int64) (selected : TodoRow → Bool) (db : Database) :
    Except Error Change := do
  let changes (row : TodoRow) : Bool := row.isDone && selected row
  let rows := db.todos.filter changes
  let users ← ownersOf rows
  let todos := db.todos.map fun row => if changes row then row.restored now else row
  return ⟨{ db with todos }, .restored (idsOf rows), users⟩

/-- Why a user may not change the to-do with that id, if so. -/
def refusal? (db : Database) (user : UserId) (id : TodoId) : Option Error :=
  match db.todos.find? fun row => isNamed [id] row.id with
  | none => some (.todoNotFound id)
  | some row => if row.belongsTo user then none else some (.notOwned id user)

/-- Refuses a set of ids with a member that the user may not change, on account of the least. All
their owners must be readable. -/
def checkOwnership (db : Database) (user : UserId) (ids : List TodoId) : Except Error Unit := do
  let _ ← ownersOf (db.todos.filter (isNamed ids ·.id))
  match (ascending ids).findSome? (refusal? db user) with
  | some error => throw error
  | none => return ()

/-! ### Deletion -/

/-- The users who have pending rows among these, in the order of their ids in rows. -/
def pendingOwners (rows : List TodoRow) : Except Error (List UserId) := do
  let users ← ownersOf (rows.filter (·.isPending))
  return (ascending (users.map rowId)).map idOfRow

/-- Deletes the rows on a target. -/
def purge (target : TargetRef) (db : Database) : Except Error Change := do
  let rows := db.todos.filter (·.points target)
  let users ← ownersOf rows
  let pending ← pendingOwners rows
  return ⟨{ db with todos := db.todos.filter (!·.points target) }, .purged pending, users⟩

/-! ### All ops -/

/-- Applies one op. -/
def step (now : Int64) (op : Op) (db : Database) : Except Error Change :=
  match op with
  | .upsert todo => upsert now todo db
  | .resolveForTarget target user action =>
    resolveWhere now .systemDone
      (fun row => row.points target && user.all (row.belongsTo ·) &&
        action.all (row.action = .integer ·.code))
      db
  | .resolveCollection ids user resolution => do
    checkOwnership db user ids
    resolveWhere now resolution (fun row => isNamed ids row.id) db
  | .restoreCollection ids user => do
    checkOwnership db user ids
    restoreWhere now (fun row => isNamed ids row.id) db
  | .resolveAllForUser user resolution => resolveWhere now resolution (·.belongsTo user) db
  | .purgeTarget target => purge target db

end TodoLedger.Ledger
