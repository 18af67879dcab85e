import TodoLedger.Ledger.Batch
import TodoLedger.Proofs.Ledger.Revision

/-!
# What a batch does

* `Ran` lists the steps of ops that ran one after the other, all with success (`ran_of_run`).
* **A batch changes no row of a user that it does not touch** (`Ran.filter_eq_of_not_touched`), and
  each row after it stems from a row before it or from a new to-do of the batch
  (`Ran.origin_cases`).
* New to-dos are put in behind the rows that are there (`Ran.append_of_upserts`), and afterwards a
  row stands in the way of each (`Ran.any_blocks_of_upserts`).
* Counting again changes nothing but the cached numbers (`refresh_map_id`, `refresh_map_handle`).
-/

namespace TodoLedger.Ledger

variable {now : Int64} {db : Database} {ops : List Op} {done : Run}

/-! ### Ops one after the other -/

/-- Ops ran one after the other, all with success. -/
inductive Ran (now : Int64) : Database → List Op → Run → Prop
  | nil {db : Database} : Ran now db [] ⟨db, [], []⟩
  | cons {db : Database} {op : Op} {change : Change} {rest : List Op} {after : Run}
    (hstep : Stepped now db op change) (hrest : Ran now change.database rest after) :
    Ran now db (op :: rest)
      ⟨after.database, change.effect :: after.effects, change.touched ++ after.touched⟩

/-- Ops that run with success are steps with success. -/
theorem ran_of_run (h : run now ops db = .ok done) : Ran now db ops done := by
  induction ops generalizing db done with
  | nil =>
    cases h
    exact .nil
  | cons op rest ih =>
    obtain ⟨change, hstep, h⟩ := bind_eq_ok_iff.1 h
    obtain ⟨after, hrest, h⟩ := bind_eq_ok_iff.1 h
    cases h
    exact .cons (stepped_of_step hstep) (ih hrest)

/-- Ops run with success if the first one does, and the others do after it. -/
theorem exists_run_cons {op : Op} {change : Change} {rest : List Op}
    (hstep : step now op db = .ok change)
    (hrest : ∃ after, run now rest change.database = .ok after) :
    ∃ done, run now (op :: rest) db = .ok done := by
  obtain ⟨after, hafter⟩ := hrest
  exact ⟨_, bind_eq_ok_iff.2 ⟨change, hstep, bind_eq_ok_iff.2 ⟨after, hafter, rfl⟩⟩⟩

/-- A batch that succeeds ran its ops, and then counted again for the users whom they touched. -/
theorem exists_ran_of_apply {db' : Database} {effects : List Effect}
    (h : apply now ops db = .ok (db', effects)) :
    ∃ done, Ran now db ops done ∧ db' = refresh done.touched done.database ∧
      effects = done.effects := by
  obtain ⟨done, hrun, h⟩ := bind_eq_ok_iff.1 h
  cases h
  exact ⟨done, ran_of_run hrun, rfl, rfl⟩

/-- A new to-do stands in the way of another such, if to-dos with its action do so. -/
theorem blocks_ofNew (id now : Int64) {todo : NewTodo}
    (haction : todo.action ∈ todo.action.conflicts) :
    blocks (TodoRow.ofNew id now todo) todo = true := by
  have hany : todo.action.conflicts.any ((TodoRow.ofNew id now todo).action = .integer ·.code) =
      true := List.any_eq_true.2 ⟨todo.action, haction, by simp [TodoRow.ofNew]⟩
  rw [blocks, hany]
  simp [TodoRow.belongsTo, TodoRow.isPending, TodoRow.points, TodoRow.ofNew]

namespace Ran

/-- Ops change no table but that of the to-dos. -/
theorem database_eq (h : Ran now db ops done) :
    done.database = { db with todos := done.database.todos } := by
  induction h with
  | nil => rfl
  | cons hstep _ ih => rw [ih, hstep.database_eq]

/-- **Ops leave alone all rows of a user whom they do not touch.** -/
theorem filter_eq_of_not_touched (h : Ran now db ops done) {user : UserId}
    (huser : user ∉ done.touched) :
    done.database.todos.filter (·.belongsTo user) = db.todos.filter (·.belongsTo user) := by
  induction h with
  | nil => rfl
  | cons hstep _ ih =>
    rw [List.mem_append, not_or] at huser
    rw [ih huser.2, hstep.filter_eq_of_not_touched huser.1]

/-- **A row after a batch stems from a row before it or from a new to-do of the batch.** -/
theorem origin_cases (h : Ran now db ops done) {row : TodoRow} (hrow : row ∈ done.database.todos) :
    (∃ before ∈ db.todos, row.origin = before.origin) ∨
      ∃ todo id, Op.upsert todo ∈ ops ∧ row.origin = (TodoRow.ofNew id now todo).origin := by
  induction h with
  | nil => exact .inl ⟨row, hrow, rfl⟩
  | cons hstep _ ih =>
    rcases ih hrow with ⟨between, hbetween, horigin⟩ | ⟨todo, id, hmem, horigin⟩
    · rcases hstep.row_cases hbetween with ⟨before, hbefore, hrevise⟩ | ⟨todo, id, rfl, _, _, rfl⟩
      · exact .inl ⟨before, hbefore, horigin.trans (Op.revise_origin hrevise)⟩
      · exact .inr ⟨todo, id, List.mem_cons_self, horigin⟩
    · exact .inr ⟨todo, id, List.mem_cons_of_mem _ hmem, horigin⟩

/-- **A row with the id of a to-do that the batch reports as new stems from such a to-do.** Its id
was free when it was put in, so no row before has it. -/
theorem origin_of_created (h : Ran now db ops done) {row : TodoRow}
    (hrow : row ∈ done.database.todos)
    (hcreated : .created (some (idOfRow row.id)) ∈ done.effects) :
    ∃ todo id, Op.upsert todo ∈ ops ∧ row.origin = (TodoRow.ofNew id now todo).origin := by
  induction h with
  | nil => exact absurd hcreated List.not_mem_nil
  | cons hstep hrest ih =>
    rcases List.mem_cons.1 hcreated with heffect | hcreated
    · cases hstep with
      | blocked | resolved | restored | purged => cases heffect
      | @inserted todo id _ hid =>
        have hrowId : row.id = id := by
          rw [← rowId_idOfRow row.id, ← rowId_idOfRow id,
            Option.some.inj (Effect.created.inj heffect)]
        rcases hrest.origin_cases hrow with ⟨between, hbetween, horigin⟩ | ⟨todo, id, hmem, horigin⟩
        · rcases List.mem_append.1 hbetween with hbefore | hnew
          · have hmem := List.mem_map_of_mem (f := (·.id)) hbefore
            rw [← TodoRow.id_eq_of_origin_eq horigin, hrowId] at hmem
            exact absurd hmem (not_mem_of_freeRowId? hid)
          · rw [List.mem_singleton] at hnew
            subst hnew
            exact ⟨todo, id, List.mem_cons_self, horigin⟩
        · exact ⟨todo, id, List.mem_cons_of_mem _ hmem, horigin⟩
    · obtain ⟨todo, id, hmem, horigin⟩ := ih hrow hcreated
      exact ⟨todo, id, List.mem_cons_of_mem _ hmem, horigin⟩

/-! ### New to-dos -/

/-- What is put in is put in behind the rows that are there. -/
theorem append_of_upserts {todos : List NewTodo} (h : Ran now db (todos.map .upsert) done) :
    ∃ rows, done.database.todos = db.todos ++ rows ∧
      ∀ row ∈ rows, ∃ todo ∈ todos, ∃ id, row = TodoRow.ofNew id now todo := by
  induction todos generalizing db done with
  | nil =>
    cases h
    exact ⟨[], by simp, by simp⟩
  | cons todo rest ih =>
    cases h with
    | cons hstep hrest =>
      obtain ⟨rows, hrows, hnew⟩ := ih hrest
      have hnew' : ∀ row ∈ rows, ∃ other ∈ todo :: rest, ∃ id,
          row = TodoRow.ofNew id now other := by
        intro row hrow
        obtain ⟨other, hother, hid⟩ := hnew row hrow
        exact ⟨other, List.mem_cons_of_mem _ hother, hid⟩
      cases hstep with
      | blocked => exact ⟨rows, hrows, hnew'⟩
      | @inserted _ id =>
        refine ⟨TodoRow.ofNew id now todo :: rows, ?_, ?_⟩
        · rw [hrows, List.append_assoc]
          rfl
        · intro row hrow
          rcases List.mem_cons.1 hrow with rfl | hrow
          · exact ⟨todo, List.mem_cons_self, id, rfl⟩
          · exact hnew' row hrow
      | resolved hop => cases hop

/-- New to-dos touch their recipients only. -/
theorem exists_recipient_of_touched {todos : List NewTodo}
    (h : Ran now db (todos.map .upsert) done) {user : UserId} (huser : user ∈ done.touched) :
    ∃ todo ∈ todos, todo.userId = user := by
  induction todos generalizing db done with
  | nil =>
    cases h
    cases huser
  | cons todo rest ih =>
    cases h with
    | cons hstep hrest =>
      rcases List.mem_append.1 huser with huser | huser
      · cases hstep with
        | blocked => cases huser
        | inserted => exact ⟨todo, List.mem_cons_self, (List.mem_singleton.1 huser).symm⟩
        | resolved hop => cases hop
      · obtain ⟨other, hother, huser⟩ := ih hrest huser
        exact ⟨other, List.mem_cons_of_mem _ hother, huser⟩

/-- **After a to-do was put in, or was not because of another, a row stands in its way**, if to-dos
with its action do so. -/
theorem any_blocks_of_upserts {todos : List NewTodo} (h : Ran now db (todos.map .upsert) done)
    {todo : NewTodo} (htodo : todo ∈ todos) (haction : todo.action ∈ todo.action.conflicts) :
    done.database.todos.any (blocks · todo) = true := by
  induction todos generalizing db done with
  | nil => exact absurd htodo List.not_mem_nil
  | cons first rest ih =>
    cases h with
    | @cons _ _ change _ _ hstep hrest =>
      rcases List.mem_cons.1 htodo with rfl | htodo
      · have hblocked : change.database.todos.any (blocks · todo) = true := by
          cases hstep with
          | blocked hblocked => exact hblocked
          | @inserted _ id =>
            refine List.any_eq_true.2 ⟨TodoRow.ofNew id now todo, by simp, ?_⟩
            exact blocks_ofNew id now haction
          | resolved hop => cases hop
        obtain ⟨rows, hrows, _⟩ := hrest.append_of_upserts
        rw [hrows, List.any_append, hblocked, Bool.true_or]
      · exact (ih hrest htodo :)

end Ran

/-! ### Counting again -/

/-- Counting again changes no to-do. -/
@[simp] theorem refresh_todos (users : List UserId) (db : Database) :
    (refresh users db).todos = db.todos := rfl

/-- Counting some users again keeps what counting one again keeps. -/
theorem comp_recount {β : Type} (users : List UserId) (db : Database) {f : UserRow → β}
    (hf : ∀ row, f (recount db row) = f row) :
    (f ∘ fun row => if isNamed users row.id then recount db row else row) = f := by
  funext row
  rw [Function.comp_apply]
  split
  · exact hf row
  · rfl

/-- Counting again keeps the ids of the users. -/
@[simp] theorem refresh_map_id (users : List UserId) (db : Database) :
    (refresh users db).users.map (·.id) = db.users.map (·.id) := by
  rw [refresh, List.map_map, comp_recount users db fun _ => rfl]

/-- Counting again keeps the handles of the users. -/
@[simp] theorem refresh_map_handle (users : List UserId) (db : Database) :
    (refresh users db).users.map (·.handle) = db.users.map (·.handle) := by
  rw [refresh, List.map_map, comp_recount users db fun _ => rfl]

/-- Nothing changes if nobody's to-dos are counted again. -/
theorem refresh_nil (db : Database) : refresh [] db = db := by
  have hkept : (fun row : UserRow => if isNamed [] row.id then recount db row else row) = id := by
    funext row
    simp [isNamed]
  rw [refresh, hkept, List.map_id]

/-- A batch without ops does nothing. -/
@[simp] theorem apply_nil (now : Int64) (db : Database) : apply now [] db = .ok (db, []) := by
  change Except.ok (refresh [] db, []) = _
  rw [refresh_nil]

end TodoLedger.Ledger
