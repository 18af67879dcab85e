import TodoLedger.Proofs.Ledger.Lookup
import TodoLedger.Proofs.Service.History

/-!
# Consistent databases

* `Database.IsConsistent db`: the keys of all tables are distinct, what members and to-dos refer to
  exists, a to-do is pending if and only if it has no resolution, and handles and users find each
  other. This is what readers of the tables rely on; it follows from well-formedness
  (`WellFormed.isConsistent`).
* `Change.inserted` are the rows that a step put in. They are the to-dos that its effect reports
  (`Stepped.ids_inserted`), and their ids are greater than all others as long as the greatest
  possible id is not taken (`Stepped.lt_of_inserted`).
* **After all calls, and between the ops of any batch, the database is consistent, and a new to-do
  gets a greater id than all that are there** (`consistent_after`).
-/

namespace TodoLedger

open Ledger (Op Effect Change Stepped)

variable {db : Database}

/-! ### Consistency -/

/-- The cells that refer to users. -/
def Database.userCells (db : Database) : List Cell := (db.users.map (·.id)).map .integer

/-- The cells that refer to projects. -/
def Database.projectCells (db : Database) : List Cell := (db.projects.map (·.id)).map .integer

/-- Keys are distinct, references lead somewhere, and what is kept twice agrees. -/
structure Database.IsConsistent (db : Database) : Prop where
  userIds : (db.users.map (·.id)).Nodup
  handles : (db.users.map (·.handle)).Nodup
  projectIds : (db.projects.map (·.id)).Nodup
  projectNames : (db.projects.map (·.name)).Nodup
  memberships : (db.members.map fun row => (row.projectId, row.userId)).Nodup
  todoIds : (db.todos.map (·.id)).Nodup
  memberProjects : ∀ row ∈ db.members, row.projectId ∈ db.projectCells
  memberUsers : ∀ row ∈ db.members, row.userId ∈ db.userCells
  recipients : ∀ row ∈ db.todos, row.userId ∈ db.userCells
  authors : ∀ row ∈ db.todos, row.authorId ∈ db.userCells
  todoProjects : ∀ row ∈ db.todos, row.projectId ∈ db.projectCells
  /-- A to-do is pending if and only if nothing resolved it. -/
  resolutions : ∀ row ∈ db.todos, row.isPending = true ↔ row.resolution = none
  /-- A handle leads to the user who has it, and to no other. -/
  users : ∀ handle id,
    db.userId? handle = some id ↔ ∃ user, db.user? id = some user ∧ user.handle = handle

/-- A to-do that is pending without a resolution or done with one is pending if and only if it has
no resolution. -/
theorem TodoRow.Lives.isPending_iff {row : TodoRow} (h : row.Lives) :
    row.isPending = true ↔ row.resolution = none := by
  rw [isPending, decide_eq_true_eq]
  rcases h with ⟨hstate, hresolution⟩ | ⟨hstate, resolution, hresolution⟩
  · simp [hstate, hresolution]
  · simp [hstate, hresolution, TodoState.name]

/-- **In a well-formed database a handle leads to the user who has it, and to no other.** -/
theorem WellFormed.userId?_eq_some_iff (hdb : WellFormed db) {handle : String} {id : UserId} :
    db.userId? handle = some id ↔ ∃ user, db.user? id = some user ∧ user.handle = handle := by
  simp only [Database.userId?, Database.user?, Database.userRow?, Option.map_eq_some_iff,
    find?_key_eq_some_iff hdb.handles, find?_key_eq_some_iff hdb.users.nodup]
  constructor
  · rintro ⟨row, ⟨hrow, hhandle⟩, rfl⟩
    exact ⟨row.read, ⟨row, ⟨hrow, (rowId_idOfRow row.id).symm⟩, rfl⟩, hhandle⟩
  · rintro ⟨_, ⟨row, ⟨hrow, hid⟩, rfl⟩, hhandle⟩
    exact ⟨row, ⟨hrow, hhandle⟩, by rw [hid, idOfRow_rowId]⟩

/-- **A well-formed database is consistent.** -/
theorem WellFormed.isConsistent (hdb : WellFormed db) : db.IsConsistent := by
  have hborn : ∀ row ∈ db.todos, row.userId ∈ db.userCells ∧ row.authorId ∈ db.userCells ∧
      row.projectId ∈ db.projectCells := by
    intro row hrow
    obtain ⟨created, todo, hadmits, horigin⟩ := (hdb.todoRows row hrow).born
    obtain ⟨hrecipient, hauthor, hproject⟩ := admits_iff.1 hadmits
    have huserId := TodoRow.userId_eq_of_origin_eq horigin
    have hauthorId : row.authorId = .ofId todo.authorId := (congrArg TodoRow.authorId horigin :)
    have hprojectId : row.projectId = .ofId todo.projectId := (congrArg TodoRow.projectId horigin :)
    rw [huserId, hauthorId, hprojectId]
    exact ⟨List.mem_map_of_mem hrecipient, List.mem_map_of_mem hauthor,
      List.mem_map_of_mem hproject⟩
  exact {
    userIds := hdb.users.nodup
    handles := hdb.handles
    projectIds := hdb.projects.nodup
    projectNames := hdb.names
    memberships := hdb.memberships
    todoIds := hdb.todos.nodup
    memberProjects := fun row hrow => by
      obtain ⟨id, hid, hcell⟩ := (hdb.memberRows row hrow).project
      exact hcell ▸ List.mem_map_of_mem hid
    memberUsers := fun row hrow => by
      obtain ⟨id, hid, hcell⟩ := (hdb.memberRows row hrow).user
      exact hcell ▸ List.mem_map_of_mem hid
    recipients := fun row hrow => (hborn row hrow).1
    authors := fun row hrow => (hborn row hrow).2.1
    todoProjects := fun row hrow => (hborn row hrow).2.2
    resolutions := fun row hrow => (hdb.todoRows row hrow).lives.isPending_iff
    users := fun _ _ => hdb.userId?_eq_some_iff }

/-! ### New rows -/

namespace Ledger

variable {now : Int64} {op : Op} {change : Change}

/-- The rows that a step put in: those with an id that no row had before. -/
def Change.inserted (before : Database) (change : Change) : List TodoRow :=
  change.database.todos.filter fun row => row.id ∉ before.todos.map (·.id)

/-- The new to-dos that an effect reports. -/
def Effect.createdIds : Effect → List TodoId
  | .created id => id.toList
  | .resolved _ | .restored _ | .purged _ => []

namespace Stepped

/-- What becomes of rows has no new id. -/
theorem inserted_eq_nil (hids : ∀ row ∈ change.database.todos, row.id ∈ db.todos.map (·.id)) :
    change.inserted db = [] := by
  rw [Change.inserted, List.filter_eq_nil_iff]
  intro row hrow
  simpa using hids row hrow

/-- A step puts in nothing, or a row with a free id behind all others. -/
theorem inserted_cases (h : Stepped now db op change) :
    (change.inserted db = [] ∧ change.effect.createdIds = []) ∨
      ∃ row, change.inserted db = [row] ∧ change.effect.createdIds = [idOfRow row.id] ∧
        freeRowId? (db.todos.map (·.id)) = some row.id := by
  have hrevised {op : Op} : ∀ row ∈ (revised now op db).todos, row.id ∈ db.todos.map (·.id) :=
    fun row hrow => (map_id_revise_sublist now op db.todos).subset (List.mem_map_of_mem hrow)
  cases h with
  | blocked => exact .inl ⟨inserted_eq_nil fun row hrow => List.mem_map_of_mem hrow, rfl⟩
  | resolved | restored | purged => exact .inl ⟨inserted_eq_nil hrevised, rfl⟩
  | @inserted todo id _ hid =>
    refine .inr ⟨TodoRow.ofNew id now todo, ?_, rfl, hid⟩
    have hold : Change.inserted db ⟨db, .created none, []⟩ = [] :=
      inserted_eq_nil fun row hrow => List.mem_map_of_mem hrow
    rw [Change.inserted] at hold
    rw [Change.inserted, List.filter_append, hold, List.nil_append]
    exact List.filter_cons_of_pos (decide_eq_true (not_mem_of_freeRowId? hid))

/-- **The rows that a step puts in are those that its effect reports.** -/
theorem ids_inserted (h : Stepped now db op change) :
    (change.inserted db).map (idOfRow ·.id) = change.effect.createdIds := by
  rcases h.inserted_cases with ⟨hnone, hids⟩ | ⟨row, hrow, hids, _⟩
  · rw [hnone, hids, List.map_nil]
  · rw [hrow, hids, List.map_singleton]

/-- **Before the ids run out, a row that a step puts in has a greater id than all others.** -/
theorem lt_of_inserted (h : Stepped now db op change) (hkeyed : Keyed (db.todos.map (·.id)))
    (hmax : ∀ row ∈ db.todos, row.id < Int64.maxValue) {row : TodoRow}
    (hrow : row ∈ change.inserted db) : ∀ other ∈ db.todos, idOfRow other.id < idOfRow row.id := by
  intro other hother
  rcases h.inserted_cases with ⟨hnone, _⟩ | ⟨new, hnew, _, hid⟩
  · rw [hnone] at hrow
    exact absurd hrow List.not_mem_nil
  · rw [hnew, List.mem_singleton] at hrow
    subst hrow
    have hlt : other.id < row.id :=
      lt_of_freeRowId? (List.forall_mem_map.2 hmax) hid _ (List.mem_map_of_mem hother)
    have hpositive := hkeyed.positive _ (List.mem_map_of_mem hother)
    exact idOfRow_lt (Int64.le_of_lt hpositive) hlt

end Stepped

end Ledger

/-! ### Histories -/

namespace Service

/-- **After all calls, and between the ops of any batch, the database is consistent, and a new to-do
gets a greater id than all that are there.** -/
theorem consistent_after (calls : List Call) :
    (State.after calls).database.IsConsistent ∧
      ∀ now ops done, Ledger.run now ops (State.after calls).database = .ok done →
        done.database.IsConsistent ∧
          ((∀ row ∈ done.database.todos, row.id < Int64.maxValue) →
            ∀ op change, Ledger.step now op done.database = .ok change →
              (change.inserted done.database).map (idOfRow ·.id) = change.effect.createdIds ∧
                ∀ row ∈ change.inserted done.database, ∀ other ∈ done.database.todos,
                  idOfRow other.id < idOfRow row.id) := by
  have hafter := wellFormed_after calls
  refine ⟨hafter.isConsistent, ?_⟩
  intro now ops done hrun
  have hdone := hafter.run (Ledger.ran_of_run hrun)
  refine ⟨hdone.isConsistent, ?_⟩
  intro hmax op change hstep
  have hstepped := Ledger.stepped_of_step hstep
  exact ⟨hstepped.ids_inserted, fun row hrow => hstepped.lt_of_inserted hdone.todos hmax hrow⟩

/-- The id of the last to-do is given again after that to-do was deleted. -/
theorem consistent_after_purge :
    let calls : List Call := [.createUser "ada" false, .createProject "engine" .everyone false,
      .apply 7 [.upsert ⟨1, 1, 1, .row .issue 5, none, .marked⟩,
        .upsert ⟨1, 1, 1, .row .issue 6, none, .marked⟩]]
    let db : Database := {
      users := [⟨1, "ada", false, 2, 0⟩]
      projects := [⟨1, "engine", "public", .integer 0⟩]
      todos := [.ofNew 1 7 ⟨1, 1, 1, .row .issue 5, none, .marked⟩,
        .ofNew 2 7 ⟨1, 1, 1, .row .issue 6, none, .marked⟩] }
    let between : Database := { db with todos := db.todos.take 1 }
    let new : NewTodo := ⟨1, 1, 1, .row .issue 7, none, .marked⟩
    let change : Ledger.Change :=
      ⟨{ between with todos := between.todos ++ [.ofNew 2 8 new] }, .created (some 2), [1]⟩
    (State.after calls).database = db ∧
      Ledger.run 8 [.purgeTarget (.row .issue 6)] db = .ok ⟨between, [.purged [1]], [1]⟩ ∧
      Ledger.step 8 (.upsert new) between = .ok change ∧
      db.IsConsistent ∧ between.IsConsistent ∧ (change.inserted between).map (idOfRow ·.id) = [2] ∧
      ∀ row ∈ change.inserted between, ∀ other ∈ between.todos, idOfRow other.id < idOfRow row.id := by
  intro calls db between new change
  have hafter : (State.after calls).database = db := by decide +kernel
  have hrun : Ledger.run 8 [.purgeTarget (.row .issue 6)] db =
      .ok ⟨between, [.purged [1]], [1]⟩ := by rfl
  have hstep : Ledger.step 8 (.upsert new) between = .ok change := by rfl
  have hmax : ∀ row ∈ between.todos, row.id < Int64.maxValue := by decide +kernel
  obtain ⟨hconsistent, hbatch⟩ := consistent_after calls
  rw [hafter] at hconsistent hbatch
  obtain ⟨hbetween, hgreater⟩ := hbatch 8 _ _ hrun
  obtain ⟨hinserted, hlt⟩ := hgreater hmax (.upsert new) change hstep
  exact ⟨hafter, hrun, hstep, hconsistent, hbetween, hinserted, hlt⟩

end Service

end TodoLedger
