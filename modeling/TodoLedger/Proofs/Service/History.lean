import TodoLedger.Proofs.Service.Phases
import TodoLedger.Proofs.WellFormed

/-!
# Histories of a database

* A `Call` is one request to the tables or to the service, with the collaborators that the service
  works with at that time: they may remember, and fail, as they like (`Surroundings`). A call that
  fails changes nothing but what the service counts.
* `State.after calls` is the state that a list of calls leaves, from the state at the start.
* **Whatever a call does to the database is one of four ways to write it, or nothing**
  (`Call.written`), so what these keep is true after all calls (`State.after_induction`).
-/

namespace TodoLedger.Service

open Ledger (Op Effect)

/-! ### Calls -/

/-- Collaborators that may do as they like, in a world of their own. -/
structure Surroundings : Type 1 where
  World : Type
  collaborators : Collaborators (StateM World)
  /-- The world in which they are asked first. -/
  world : World

/-- A request to the tables or to the service. -/
inductive Call : Type 1 where
  | createUser (handle : String) (admin : Bool)
  | createProject (name : String) (visibility : Visibility) (repositoryPrivate : Bool)
  | setMember (project : ProjectId) (user : UserId) (level : AccessLevel)
  /-- Hands a batch to the ledger, without the service. -/
  | apply (now : Int64) (ops : List Op)
  | handle (around : Surroundings) (settings : Settings) (now : Int64) (event : Event)
  /-- Removes a target with all its to-dos. -/
  | destroy (around : Surroundings) (settings : Settings) (now : Int64) (target : Target)
    (removal : ExceptT Fault (StateM around.World) Unit)

/-- The state with another database, if there is one. -/
def State.put {ε : Type} (s : State) : Except ε Database → State
  | .ok database => { s with database }
  | .error _ => s

/-- The state after a call. -/
def Call.perform (s : State) : Call → State
  | .createUser name admin => s.put ((s.database.createUser name admin).map (·.1))
  | .createProject name visibility repositoryPrivate =>
    s.put ((s.database.createProject name visibility repositoryPrivate).map (·.1))
  | .setMember project user level => s.put (s.database.setMember project user level)
  | .apply now ops => s.put ((Ledger.apply now ops s.database).map (·.1))
  | .handle around settings now event =>
    ((Service.handle around.collaborators settings now event s).run around.world).1.2
  | .destroy around settings now target removal =>
    ((Service.destroy around.collaborators settings now target removal s).run around.world).1.2

/-- The state after calls, from the state at the start. -/
def State.after (calls : List Call) : State := calls.foldl Call.perform .initial

/-- The last call is made in the state after the others. -/
@[simp] theorem State.after_concat (calls : List Call) (call : Call) :
    State.after (calls ++ [call]) = call.perform (State.after calls) := by
  rw [after, List.foldl_append]
  rfl

/-- Counting an event writes nothing to the database. -/
@[simp] theorem State.countEvent_database (s : State) (kind : EventKind) (succeeded : Bool) :
    (s.countEvent kind succeeded).database = s.database := rfl

/-! ### What calls write -/

/-- The ways in which a database is written. -/
inductive Written (db : Database) : Database → Prop
  | kept : Written db db
  | user {handle : String} {admin : Bool} {id : UserId} {db' : Database}
    (h : db.createUser handle admin = .ok (db', id)) : Written db db'
  | project {name : String} {visibility : Visibility} {repositoryPrivate : Bool} {id : ProjectId}
    {db' : Database} (h : db.createProject name visibility repositoryPrivate = .ok (db', id)) :
    Written db db'
  | member {project : ProjectId} {user : UserId} {level : AccessLevel} {db' : Database}
    (h : db.setMember project user level = .ok db') : Written db db'
  | batch {now : Int64} {ops : List Op} {effects : List Effect} {db' : Database}
    (h : Ledger.apply now ops db = .ok (db', effects)) : Written db db'

/-- The second phase of an event writes a batch, or nothing. -/
theorem written_conclude (now : Int64) (gathered : Except Error (List Op)) (s : State) :
    Written s.database (conclude now gathered s).2.database := by
  rcases conclude_database now gathered s with h | ⟨ops, effects, _, h⟩
  · rw [h]
    exact .kept
  · exact .batch h

/-- What is true of a database and of what a request gives is true of what is put into the state. -/
theorem State.put_induction {α : Type} {P : Database → Prop} {s : State}
    {result : Except Fault (Database × α)} (hkept : P s.database)
    (h : ∀ {db a}, result = .ok (db, a) → P db) : P (s.put (result.map (·.1))).database := by
  cases result with
  | error => exact hkept
  | ok => exact h rfl

/-- The database is as before, or it is the one that was put into the state. -/
theorem State.put_cases {ε : Type} (s : State) (result : Except ε Database) :
    (s.put result).database = s.database ∨
      ∃ database, result = .ok database ∧ (s.put result).database = database := by
  cases result with
  | error => exact .inl rfl
  | ok database => exact .inr ⟨database, rfl, rfl⟩

/-- Writing to the database counts nothing. -/
@[simp] theorem State.put_metrics {ε : Type} (s : State) (result : Except ε Database) :
    (s.put result).metrics = s.metrics := by
  cases result <;> rfl

/-- True of the calls that make accounts. -/
def Call.makesAccounts : Call → Bool
  | .createUser .. | .createProject .. | .setMember .. => true
  | .apply .. | .handle .. | .destroy .. => false

/-- True of all calls but those that hand a batch to the ledger without the service. -/
def Call.isRegular : Call → Bool
  | .apply .. => false
  | .createUser .. | .createProject .. | .setMember .. | .handle .. | .destroy .. => true

/-- A call that makes accounts changes no to-do and counts nothing. -/
theorem Call.perform_of_makesAccounts {call : Call} (h : call.makesAccounts = true) (s : State) :
    (call.perform s).database.todos = s.database.todos ∧ (call.perform s).metrics = s.metrics := by
  cases call with
  | createUser name admin =>
    refine ⟨State.put_induction (P := (·.todos = s.database.todos)) rfl fun h => ?_,
      s.put_metrics _⟩
    rw [Database.eq_of_createUser h]
  | createProject name visibility repositoryPrivate =>
    refine ⟨State.put_induction (P := (·.todos = s.database.todos)) rfl fun h => ?_,
      s.put_metrics _⟩
    rw [Database.eq_of_createProject h]
  | setMember project user level =>
    refine ⟨?_, s.put_metrics _⟩
    rw [perform]
    cases h : s.database.setMember project user level with
    | error => rfl
    | ok db =>
      rw [Database.eq_of_setMember h]
      rfl
  | apply | handle | destroy => cases h

/-- **A call writes the database in one way.** -/
theorem Call.written (s : State) (call : Call) : Written s.database (call.perform s).database := by
  cases call with
  | createUser name admin => exact State.put_induction .kept .user
  | createProject name visibility repositoryPrivate => exact State.put_induction .kept .project
  | setMember project user level =>
    rw [Call.perform]
    cases h : s.database.setMember project user level with
    | error => exact .kept
    | ok => exact .member h
  | apply now ops =>
    rw [Call.perform]
    cases h : Ledger.apply now ops s.database with
    | error => exact .kept
    | ok => exact .batch h
  | handle around settings now event =>
    rw [Call.perform, run_handle]
    exact written_conclude now _ s
  | destroy around settings now target removal =>
    rw [Call.perform]
    rcases run_destroy_database around.collaborators settings now target removal s around.world with
      hsame | ⟨between, hconclude⟩
    · rw [hsame]
      exact .kept
    · rw [hconclude]
      exact written_conclude now _ s

/-- **What all ways to write keep is true after all calls.** -/
theorem State.after_induction {P : Database → Prop} (hempty : P .empty)
    (hwritten : ∀ {db db' : Database}, P db → Written db db' → P db') (calls : List Call) :
    P (State.after calls).database := by
  induction calls using List.reverseRecOn with
  | nil => exact hempty
  | append_singleton calls call ih =>
    rw [State.after_concat]
    exact hwritten ih (call.written _)

/-- Every way to write keeps a database well-formed. -/
theorem wellFormed_written {db db' : Database} (hdb : WellFormed db) (h : Written db db') :
    WellFormed db' := by
  cases h with
  | kept => exact hdb
  | user h => exact hdb.createUser h
  | project h => exact hdb.createProject h
  | member h => exact hdb.setMember h
  | batch h => exact hdb.apply h

/-- **After all calls the database is well-formed.** -/
theorem wellFormed_after (calls : List Call) : WellFormed (State.after calls).database :=
  State.after_induction .empty wellFormed_written calls

end TodoLedger.Service
