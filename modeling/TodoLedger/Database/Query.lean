import TodoLedger.Database.Row
import TodoLedger.Ascending

/-!
# Questions about to-dos

What can be asked of the table of to-dos without changing it. Lists of to-dos fail as a whole when
one of their rows cannot be read. The numbers that `countTodos` gives come from the rows, not from
what is cached with the user.
-/

namespace TodoLedger

namespace Database

/-- Reads rows in their order. -/
def readTodos (step : Step) (rows : List TodoRow) : Except Fault (List Todo) :=
  match rows.mapM TodoRow.read with
  | .ok todos => .ok todos
  | .error cause => .error ⟨[step], cause⟩

/-- The to-do with that id. -/
def todo? (db : Database) (id : TodoId) : Except Fault (Option Todo) :=
  match db.todos.find? (·.id = rowId id) with
  | none => .ok none
  | some row =>
    match row.read with
    | .ok todo => .ok (some todo)
    | .error cause => .error ⟨[.loadTodo id], cause⟩

end Database

/-- True when the row has all that the filter asks for. -/
def TodoFilter.passes (filter : TodoFilter) (row : TodoRow) : Bool :=
  filter.state.all (row.state = ·.name) && filter.action.all (row.action = .integer ·.code) &&
    filter.projectId.all (row.projectId = .ofId ·) && filter.kind.all (row.targetKind = ·.name)

/-- The newer row comes first; of rows of one second, the one with the greater id. -/
def TodoRow.isBefore (a b : TodoRow) : Bool :=
  b.createdAt.isBelow a.createdAt || (a.createdAt = b.createdAt && b.id ≤ a.id)

namespace Database

/-- The to-dos of a user that pass the filter, newest first. -/
def todosOfUser (db : Database) (user : UserId) (filter : TodoFilter) : Except Fault (List Todo) :=
  let rows := db.todos.filter fun row => row.belongsTo user && filter.passes row
  readTodos (.loadTodosOfUser user) (rows.mergeSort TodoRow.isBefore)

/-- The to-dos on a target by id. -/
def todosOfTarget (db : Database) (target : TargetRef) : Except Fault (List Todo) :=
  let rows := db.todos.filter (·.points target)
  readTodos (.loadTodosOfTarget target) (rows.mergeSort (·.id ≤ ·.id))

/-- True when the user has a pending to-do on the target. -/
def pendingExists (db : Database) (user : UserId) (target : TargetRef) : Bool :=
  db.todos.any fun row => row.belongsTo user && row.isPending && row.points target

/-- The number of a user's rows with that state. -/
def countState (db : Database) (user : Int64) (state : TodoState) : Nat :=
  db.todos.countP fun row => row.userId = .integer user && row.state = state.name

/-- The numbers of a user's to-dos by their rows. -/
def countTodos (db : Database) (user : UserId) : Except Error Counts :=
  let states := ascending ((db.todos.filter (·.belongsTo user)).map (·.state))
  match states.find? fun name => (TodoState.ofName? name).isNone with
  | some name => .error (.unknownState name)
  | none =>
    .ok ⟨UInt64.ofNat (db.countState (rowId user) .pending),
      UInt64.ofNat (db.countState (rowId user) .done)⟩

end Database

end TodoLedger
