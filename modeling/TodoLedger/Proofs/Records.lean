import TodoLedger.Proofs.Ledger.Purging
import TodoLedger.Proofs.Reading

/-!
# The to-dos on a target

* `NewTodo.asTodo` is the to-do that a new one becomes. **It is read back as it was put in**
  (`shows_ofNew`, `todo?_of_created`), whatever of its 64-bit ids and of its target is absent or
  present.
* `Todo.awaits` are the pending to-dos on a target, of one user or all, for one action or all.
* `Database.KeepsApart`: the list of a target, the resolution and the deletion of its to-dos, and
  the questions whether a user has a pending one and whether one stands in the way of a new one, all
  take just the to-dos with that reference. **This is so of every target after all calls**
  (`targets_kept_apart`).
-/

namespace TodoLedger

open Ledger (Op Effect Stepped submit idsOf)

variable {now : Int64} {db : Database} {records : List Todo}

/-! ### To-dos after a write -/

/-- The to-do that a new one becomes when its row gets the id. -/
def NewTodo.asTodo (new : NewTodo) (id : TodoId) (now : Int64) : Todo where
  id := id
  userId := new.userId
  authorId := new.authorId
  projectId := new.projectId
  target := new.target
  noteId := new.noteId
  action := new.action
  state := .pending
  resolution := none
  createdAt := .ofSeconds now.toInt
  updatedAt := .ofSeconds now.toInt

/-- The to-do after it became done. -/
def Todo.resolved (now : Int64) (resolution : Resolution) (todo : Todo) : Todo :=
  { todo with
    state := .done
    resolution := some resolution
    updatedAt := .ofSeconds now.toInt }

/-- True of a pending to-do on the target, of the user and for the action if these are given. -/
def Todo.awaits (target : TargetRef) (user : Option UserId) (action : Option Action)
    (todo : Todo) : Bool :=
  todo.isPending && todo.target = target && user.all (todo.userId = ·) &&
    action.all (todo.action = ·)

/-- The row of a new to-do shows it. -/
theorem shows_ofNew (id now : Int64) (new : NewTodo) :
    (TodoRow.ofNew id now new).Shows (new.asTodo (idOfRow id) now) where
  id := rfl
  userId := rfl
  authorId := rfl
  projectId := rfl
  targetKind := rfl
  targetId := rfl
  commitId := rfl
  noteId := rfl
  action := rfl
  state := rfl
  resolution := rfl
  createdAt := ⟨now, rfl, rfl⟩
  updatedAt := ⟨now, rfl, rfl⟩

/-- A row that becomes done shows the to-do that becomes done. -/
theorem TodoRow.Shows.resolved {row : TodoRow} {todo : Todo} (h : row.Shows todo) (now : Int64)
    (resolution : Resolution) :
    (row.resolved now resolution).Shows (todo.resolved now resolution) :=
  { h with state := rfl, resolution := rfl, updatedAt := ⟨now, rfl, rfl⟩ }

/-- A row is to be resolved if its to-do awaits that. -/
theorem TodoRow.Shows.affects {row : TodoRow} {todo : Todo} (h : row.Shows todo)
    (target : TargetRef) (user : Option UserId) (action : Option Action) :
    (Op.resolveForTarget target user action).affects row = todo.awaits target user action := by
  simp only [Op.affects, Todo.awaits, h.isPending, h.points, h.belongsTo, h.hasAction,
    Bool.and_assoc]

/-- A row stands in the way of a new to-do if its to-do is a pending one of the same user on the
same target, for an action that conflicts. -/
theorem TodoRow.Shows.blocks {row : TodoRow} {todo : Todo} (h : row.Shows todo) (new : NewTodo) :
    Ledger.blocks row new = (decide (todo.userId = new.userId) && todo.isPending &&
      decide (todo.target = new.target) && decide (todo.action ∈ new.action.conflicts)) := by
  have haction : new.action.conflicts.any (row.action = .integer ·.code) =
      decide (todo.action ∈ new.action.conflicts) := by
    rw [Bool.eq_iff_iff, List.any_eq_true, decide_eq_true_eq]
    simp only [h.hasAction, decide_eq_true_eq]
    constructor
    · rintro ⟨_, hmem, rfl⟩
      exact hmem
    · exact fun hmem => ⟨_, hmem, rfl⟩
  rw [Ledger.blocks, h.belongsTo, h.isPending, h.points, haction]

/-! ### What is asked and done -/

/-- What is asked of a target, and what is done to its to-dos, takes those of all to-dos that have
just this reference. -/
structure Database.KeepsApart (now : Int64) (db : Database) (records : List Todo)
    (target : TargetRef) : Prop where
  /-- They are listed by their ids. -/
  listed : ∃ todos, db.todosOfTarget target = .ok todos ∧
    todos.Perm (records.filter (·.target = target)) ∧ todos.Pairwise (·.id < ·.id)
  /-- Those that await it are resolved. -/
  resolved : ∀ user action, ∃ after,
    submit now (.resolveForTarget target user action) db = .ok (after, .resolved
      (ascending ((records.filter (·.awaits target user action)).map (·.id)))) ∧
    after.records = .ok (records.map fun todo =>
      if todo.awaits target user action then todo.resolved now .systemDone else todo)
  /-- All of them are deleted, and those who had a pending one are reported. -/
  purged : ∃ after users, submit now (.purgeTarget target) db = .ok (after, .purged users) ∧
    users.Pairwise (· < ·) ∧
    (∀ user, user ∈ users ↔
      ∃ todo ∈ records, todo.target = target ∧ todo.isPending = true ∧ todo.userId = user) ∧
    after.records = .ok (records.filter (·.target ≠ target))
  /-- A user has a pending one or not. -/
  pendingExists : ∀ user, db.pendingExists user target = true ↔
    ∃ todo ∈ records, todo.userId = user ∧ todo.isPending = true ∧ todo.target = target
  /-- A new one gets no row if one of them that conflicts with it is pending. -/
  blocked : ∀ new : NewTodo, new.target = target →
    ((∃ after, submit now (.upsert new) db = .ok (after, .created none)) ↔
      ∃ todo ∈ records, todo.userId = new.userId ∧ todo.isPending = true ∧ todo.target = target ∧
        todo.action ∈ new.action.conflicts)

/-- An op by itself is a step, and counting again, which no to-do shows. -/
theorem exists_submit_of_step {op : Op} {change : Ledger.Change}
    (h : Ledger.step now op db = .ok change) :
    ∃ after, submit now op db = .ok (after, change.effect) ∧
      after.todos = change.database.todos := by
  refine ⟨Ledger.refresh change.touched change.database, ?_, rfl⟩
  rw [Ledger.submit_eq_applyOne]
  exact bind_eq_ok_iff.2 ⟨change, h, rfl⟩

/-- An op that succeeds by itself is a step that succeeds. -/
theorem exists_stepped_of_submit {op : Op} {after : Database} {effect : Effect}
    (h : submit now op db = .ok (after, effect)) :
    ∃ change, Stepped now db op change ∧ change.effect = effect ∧
      after.todos = change.database.todos := by
  rw [Ledger.submit_eq_applyOne] at h
  obtain ⟨change, hstep, h⟩ := bind_eq_ok_iff.1 h
  cases h
  exact ⟨change, Ledger.stepped_of_step hstep, rfl, rfl⟩

/-- Rows that are sorted by their ids come before those with greater ids. -/
theorem pairwise_mergeSort_id (rows : List TodoRow) :
    (rows.mergeSort (·.id ≤ ·.id)).Pairwise (·.id ≤ ·.id) := by
  have htrans (a b c : TodoRow) (hab : decide (a.id ≤ b.id) = true)
      (hbc : decide (b.id ≤ c.id) = true) : decide (a.id ≤ c.id) = true :=
    decide_eq_true (Int64.le_trans (of_decide_eq_true hab) (of_decide_eq_true hbc))
  have htotal (a b : TodoRow) : (decide (a.id ≤ b.id) || decide (b.id ≤ a.id)) = true := by
    simpa using Int64.le_total a.id b.id
  exact (List.pairwise_mergeSort htrans htotal rows).imp of_decide_eq_true

section Reading

variable (hrecords : List.Forall₂ TodoRow.Shows db.todos records)

include hrecords

/-- **The to-dos on a target are listed by their ids.** -/
theorem exists_todosOfTarget (hkeyed : Keyed (db.todos.map (·.id))) (target : TargetRef) :
    ∃ todos, db.todosOfTarget target = .ok todos ∧
      todos.Perm (records.filter (·.target = target)) ∧ todos.Pairwise (·.id < ·.id) := by
  let rows := db.todos.filter (·.points target)
  let sorted := rows.mergeSort (·.id ≤ ·.id)
  have hperm : sorted.Perm rows := List.mergeSort_perm _ _
  obtain ⟨todos, hshows, htodos⟩ := exists_shows_of_perm
    (forall₂_filter hrecords fun row todo h => h.points target) hperm
  refine ⟨todos, readTodos_of_shows _ hshows, htodos, ?_⟩
  have hsorted : Keyed (sorted.map (·.id)) := by
    have hrows : Keyed (rows.map (·.id)) := hkeyed.sublist (List.filter_sublist.map _)
    exact ⟨(hperm.map _).nodup_iff.2 hrows.nodup,
      fun id hid => hrows.positive id ((hperm.map _).subset hid)⟩
  have hle : sorted.Pairwise (·.id ≤ ·.id) := pairwise_mergeSort_id rows
  have hids : sorted.map (idOfRow ·.id) = todos.map (·.id) :=
    map_eq_of_shows hshows fun row todo h => h.id
  -- The ids of to-dos are ordered as those of their rows, since no row has a negative one.
  rw [← List.pairwise_map (f := Todo.id), ← hids, List.pairwise_map]
  have hlt := hle.and (List.pairwise_map.1 hsorted.nodup)
  refine hlt.imp_of_mem fun hfirst _ h => idOfRow_lt ?_ (Int64.lt_of_le_of_ne h.1 h.2)
  exact Int64.le_of_lt (hsorted.positive _ (List.mem_map_of_mem hfirst))

/-- **The to-dos that await it are resolved, and no others.** -/
theorem exists_submit_resolveForTarget (hwf : WellFormed db) (target : TargetRef)
    (user : Option UserId) (action : Option Action) :
    ∃ after, submit now (.resolveForTarget target user action) db = .ok (after, .resolved
        (ascending ((records.filter (·.awaits target user action)).map (·.id)))) ∧
      after.records = .ok (records.map fun todo =>
        if todo.awaits target user action then todo.resolved now .systemDone else todo) := by
  have haffects : ∀ row todo, row.Shows todo →
      (Op.resolveForTarget target user action).affects row = todo.awaits target user action :=
    fun row todo h => h.affects target user action
  have hids : idsOf (db.todos.filter (Op.resolveForTarget target user action).affects) =
      ascending ((records.filter (·.awaits target user action)).map (·.id)) :=
    congrArg ascending <| map_eq_of_shows (forall₂_filter hrecords haffects) fun _ _ h => h.id
  obtain ⟨change, hstep⟩ : ∃ change,
      Ledger.step now (.resolveForTarget target user action) db = .ok change :=
    Ledger.exists_step_of_permitted now hwf rfl trivial
  obtain ⟨after, hsubmit, htodos⟩ := exists_submit_of_step hstep
  have hstepped := Ledger.stepped_of_step hstep
  have heffect : change.effect =
      .resolved (idsOf (db.todos.filter (Op.resolveForTarget target user action).affects)) := by
    cases hstepped with
    | resolved => rfl
  rw [heffect, hids] at hsubmit
  refine ⟨after, hsubmit, ?_⟩
  rw [hstepped.eq_revised rfl, Ledger.revised_of_rewrite (Op.rewrite_of_resolves rfl)] at htodos
  rw [Database.records, htodos, mapM_read_eq_ok_iff, List.forall₂_map_left_iff,
    List.forall₂_map_right_iff]
  refine hrecords.imp fun row todo h => ?_
  rw [haffects row todo h]
  split
  · exact h.resolved now .systemDone
  · exact h

/-- **The to-dos on a target are deleted, and no others.** -/
theorem exists_submit_purgeTarget (hwf : WellFormed db) (hcounted : Counted db)
    (target : TargetRef) :
    ∃ after users, submit now (.purgeTarget target) db = .ok (after, .purged users) ∧
      users.Pairwise (· < ·) ∧
      (∀ user, user ∈ users ↔
        ∃ todo ∈ records, todo.target = target ∧ todo.isPending = true ∧ todo.userId = user) ∧
      after.records = .ok (records.filter (·.target ≠ target)) := by
  obtain ⟨users, hsubmit, hpairwise, hmem⟩ := exists_submit_purge hwf hcounted target
  refine ⟨db.without target, users, hsubmit now, hpairwise, fun user => ?_, ?_⟩
  · have hany : (db.todos.any fun row =>
          row.points target && (row.isPending && row.belongsTo user)) =
        records.any fun todo =>
          decide (todo.target = target) && (todo.isPending && decide (todo.userId = user)) :=
      any_eq_of_shows hrecords fun row todo h => by rw [h.points, h.isPending, h.belongsTo]
    rw [Bool.eq_iff_iff] at hany
    rw [hmem]
    simpa using hany
  · have hkept := forall₂_filter hrecords (p := (!·.points target)) (q := (·.target ≠ target))
      fun row todo h => by rw [h.points, decide_not]
    exact mapM_read_eq_ok_iff.2 hkept

/-- A new to-do gets no row if a pending one conflicts with it. -/
theorem exists_submit_blocked_iff (new : NewTodo) :
    (∃ after, submit now (.upsert new) db = .ok (after, .created none)) ↔
      ∃ todo ∈ records, todo.userId = new.userId ∧ todo.isPending = true ∧
        todo.target = new.target ∧ todo.action ∈ new.action.conflicts := by
  have hany : db.todos.any (Ledger.blocks · new) = records.any fun todo =>
      decide (todo.userId = new.userId) && todo.isPending && decide (todo.target = new.target) &&
        decide (todo.action ∈ new.action.conflicts) :=
    any_eq_of_shows hrecords fun row todo h => h.blocks new
  have hblocked : (∃ after, submit now (.upsert new) db = .ok (after, .created none)) ↔
      db.todos.any (Ledger.blocks · new) = true := by
    constructor
    · rintro ⟨after, h⟩
      obtain ⟨change, hstepped, heffect, -⟩ := exists_stepped_of_submit h
      cases hstepped with
      | blocked hblocked => exact hblocked
      | inserted => cases heffect
      | resolved hop => cases hop
    · intro hblocked
      have hstep : Ledger.step now (.upsert new) db = .ok ⟨db, .created none, []⟩ := by
        rw [Ledger.step, Ledger.upsert, if_pos hblocked]
      obtain ⟨after, hsubmit, -⟩ := exists_submit_of_step hstep
      exact ⟨after, hsubmit⟩
  rw [hblocked, hany]
  simp [and_assoc]

/-- **A new to-do that gets a row is read back as it was put in**, behind all others. -/
theorem todo?_of_created {new : NewTodo} {after : Database} {id : TodoId}
    (h : submit now (.upsert new) db = .ok (after, .created (some id))) :
    after.todo? id = .ok (some (new.asTodo id now)) ∧
      after.records = .ok (records ++ [new.asTodo id now]) := by
  obtain ⟨change, hstepped, heffect, htodos⟩ := exists_stepped_of_submit h
  cases hstepped with
  | blocked => cases heffect
  | resolved hop => cases hop
  | @inserted _ rowId' _ hfree =>
    cases heffect
    have hshows := shows_ofNew rowId' now new
    constructor
    · have hfound : after.todos.find? (·.id = rowId (idOfRow rowId')) =
          some (TodoRow.ofNew rowId' now new) := by
        have hnew : (TodoRow.ofNew rowId' now new).id ∉ db.todos.map (·.id) :=
          not_mem_of_freeRowId? hfree
        rw [htodos]
        exact (todoRow?_append hnew _).trans (if_pos rfl)
      rw [Database.todo?, hfound]
      simp only [hshows.read]
    · rw [Database.records, htodos, mapM_read_eq_ok_iff]
      exact List.rel_append hrecords (.cons hshows .nil)

end Reading

namespace Service

/-- **Rows are read back as they were written, and targets are kept apart.** After all calls, a new
to-do that gets a row is found by its id with just its fields, pending and without a resolution; and
what is asked of a target, or done to its to-dos, takes all those with just its reference. -/
theorem targets_kept_apart (calls : List Call) (now : Int64) :
    let db := (State.after calls).database
    ∃ records, db.records = .ok records ∧ (records.map (·.id)).Nodup ∧
      (∀ new after id, submit now (.upsert new) db = .ok (after, .created (some id)) →
        after.todo? id = .ok (some (new.asTodo id now)) ∧
          after.records = .ok (records ++ [new.asTodo id now])) ∧
      ∀ target, db.KeepsApart now records target := by
  intro db
  have hwf : WellFormed db := wellFormed_after calls
  have hcounted : Counted db := counted_after calls
  obtain ⟨records, hread⟩ := exists_records_after calls
  have hrecords := mapM_read_eq_ok_iff.1 hread
  refine ⟨records, hread, nodup_of_shows hrecords hwf.todos.nodup,
    fun new after id => todo?_of_created hrecords, fun target => ?_⟩
  exact {
    listed := exists_todosOfTarget hrecords hwf.todos target
    resolved := exists_submit_resolveForTarget hrecords hwf target
    purged := exists_submit_purgeTarget hrecords hwf hcounted target
    pendingExists := fun user => pendingExists_iff hrecords user target
    blocked := by
      rintro new rfl
      exact exists_submit_blocked_iff hrecords new }

/-- A to-do on another reference with the same id of a row does not stand in the way, and all bits
of ids are read back. -/
theorem targets_kept_apart_same_row :
    let calls : List Call := [.createUser "ada" false, .createProject "engine" .everyone false,
      .apply 7 [.upsert ⟨1, 1, 1, ⟨.commit, some 18446744073709551615, some "0badc0de"⟩, none,
        .mentioned⟩]]
    let db := (State.after calls).database
    let new : NewTodo := ⟨1, 1, 1, ⟨.commit, some 18446744073709551615, none⟩,
      some 9223372036854775808, .directlyAddressed⟩
    (∃ after, submit 8 (.upsert new) db = .ok (after, .created (some 2)) ∧
      after.todo? 2 = .ok (some (new.asTodo 2 8))) ∧
    ∃ records, db.records = .ok records ∧ db.KeepsApart 8 records new.target := by
  intro calls db new
  obtain ⟨records, hrecords, -, hcreated, hkept⟩ := targets_kept_apart calls 8
  have hids : (submit 8 (.upsert new) db).map (·.2) = .ok (.created (some 2)) := by decide +kernel
  cases hsubmit : submit 8 (.upsert new) db with
  | error =>
    rw [hsubmit] at hids
    cases hids
  | ok done =>
    obtain ⟨after, effect⟩ := done
    rw [hsubmit] at hids
    cases hids
    exact ⟨⟨after, rfl, (hcreated new after 2 hsubmit).1⟩, records, hrecords, hkept _⟩

end Service

end TodoLedger
