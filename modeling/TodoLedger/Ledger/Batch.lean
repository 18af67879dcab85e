import TodoLedger.Database.Query
import TodoLedger.Ledger.Step

/-!
# Batches

A batch of ops is applied as a whole: the ops run in order, each on what the ones before it left,
and if one fails the batch has no effect. Then the cached numbers of all users whose to-dos changed
are counted again.
-/

namespace TodoLedger.Ledger

/-- Counts the to-dos of a user again. -/
def recount (db : Database) (row : UserRow) : UserRow :=
  { row with
    pending := Int64.ofNat (db.countState row.id .pending)
    done := Int64.ofNat (db.countState row.id .done) }

/-- Counts the to-dos of these users again. -/
def refresh (users : List UserId) (db : Database) : Database :=
  { db with users := db.users.map fun row => if isNamed users row.id then recount db row else row }

/-- What ops that ran one after the other did. -/
structure Run where
  database : Database
  effects : List Effect
  touched : List UserId

/-- Runs ops one after the other. -/
def run (now : Int64) : List Op → Database → Except Error Run
  | [], db => .ok ⟨db, [], []⟩
  | op :: rest, db => do
    let change ← step now op db
    let after ← run now rest change.database
    return ⟨after.database, change.effect :: after.effects, change.touched ++ after.touched⟩

/-- Applies a batch, which has one effect for each op. -/
def apply (now : Int64) (ops : List Op) (db : Database) : Except Error (Database × List Effect) := do
  let done ← run now ops db
  return (refresh done.touched done.database, done.effects)

/-- Applies a batch of one op. -/
def applyOne (now : Int64) (op : Op) (db : Database) : Except Error (Database × Effect) := do
  let change ← step now op db
  return (refresh change.touched change.database, change.effect)

/-- Submits an op by itself. A set of ids without members never reaches the tables. -/
def submit (now : Int64) (op : Op) (db : Database) : Except Error (Database × Effect) :=
  match op with
  | .resolveCollection [] _ _ => .ok (db, .resolved [])
  | .restoreCollection [] _ => .ok (db, .restored [])
  | op => applyOne now op db

end TodoLedger.Ledger
