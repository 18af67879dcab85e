import Mathlib.Data.List.Forall2
import TodoLedger.Proofs.Uniqueness

/-!
# New to-dos for different users

New to-dos whose recipients differ do not stand in each other's way, so the rows before a batch of
them tell what the batch puts in.

* **A to-do of the batch gets a row if and only if no row before the batch stands in its way**
  (`Ledger.Ran.exists_inserted`).
* `IsPrompted`: a user is asked to look at a target, and has a new row for that if and only if they
  were not asked before. **This is so for the recipients of the batch**
  (`Ledger.Inserted.isPrompted`).
-/

namespace TodoLedger

open Ledger (Op Run Ran blocks)

variable {now : Int64} {db db' : Database} {todos : List NewTodo} {rows : List TodoRow}

/-! ### Rows for the recipients -/

namespace Ledger

/-- The rows of the new to-dos that none stood in the way of, in the same order, were put in behind
the others. -/
structure Inserted (now : Int64) (db db' : Database) (todos : List NewTodo) (rows : List TodoRow) :
    Prop where
  appended : db'.todos = db.todos ++ rows
  requested : List.Forall₂ (fun row todo => row = TodoRow.ofNew row.id now todo) rows
    (todos.filter fun todo => !db.todos.any (blocks · todo))

/-- To-dos that each user is given by themselves are for these users. -/
theorem map_userId_map {give : UserId → NewTodo} (hgive : ∀ user, (give user).userId = user)
    (users : List UserId) : (users.map give).map (·.userId) = users := by
  rw [List.map_map]
  exact (List.map_congr_left fun user _ => hgive user).trans (List.map_id users)

/-- The row of one user does not stand in the way of a to-do for another. -/
theorem blocks_ofNew_of_ne (id now : Int64) {todo other : NewTodo}
    (huser : todo.userId ≠ other.userId) : blocks (TodoRow.ofNew id now todo) other = false := by
  have hother : (TodoRow.ofNew id now todo).belongsTo other.userId = false :=
    Bool.eq_false_iff.2 fun hbelongs => huser (TodoRow.belongsTo_ofNew.1 hbelongs)
  rw [blocks, hother]
  rfl

/-- **New to-dos for different users get rows if and only if none stood in their way before all of
them.** -/
theorem Ran.exists_inserted {done : Run} (h : Ran now db (todos.map .upsert) done)
    (husers : (todos.map (·.userId)).Nodup) :
    ∃ rows, Inserted now db done.database todos rows := by
  induction todos generalizing db done with
  | nil =>
    cases h
    exact ⟨[], (List.append_nil _).symm, .nil⟩
  | cons todo rest ih =>
    rw [List.map_cons, List.nodup_cons] at husers
    obtain ⟨hnew, husers⟩ := husers
    cases h with
    | cons hstep hrest =>
      obtain ⟨rows, happended, hrequested⟩ := ih hrest husers
      cases hstep with
      | blocked hblocked =>
        refine ⟨rows, happended, ?_⟩
        rw [List.filter_cons_of_neg (by rw [hblocked]; exact Bool.false_ne_true)]
        exact hrequested
      | @inserted _ id hfree =>
        refine ⟨TodoRow.ofNew id now todo :: rows, ?_, ?_⟩
        · rw [happended, List.append_assoc]
          rfl
        · have hunblocked : db.todos.any (blocks · todo) = false := by simpa using hfree
          rw [List.filter_cons_of_pos (by rw [hunblocked]; rfl)]
          refine .cons rfl ?_
          -- The new row is for another user than the to-dos that follow.
          have hsame : ∀ other ∈ rest,
              (!(db.todos ++ [TodoRow.ofNew id now todo]).any (blocks · other)) =
                !db.todos.any (blocks · other) := by
            intro other hother
            have hne : todo.userId ≠ other.userId := by
              intro heq
              exact hnew (heq ▸ List.mem_map_of_mem hother)
            rw [List.any_append, List.any_cons, blocks_ofNew_of_ne id now hne]
            simp
          rw [← List.filter_congr hsame]
          exact hrequested
      | resolved hop => cases hop

namespace Inserted

/-- Each new row is that of a to-do of the batch. -/
theorem exists_todo (h : Inserted now db db' todos rows) :
    ∀ row ∈ rows, ∃ todo ∈ todos, row = TodoRow.ofNew row.id now todo := by
  have hmatched {rows : List TodoRow} {requested : List NewTodo}
      (h : List.Forall₂ (fun row todo => row = TodoRow.ofNew row.id now todo) rows requested) :
      ∀ row ∈ rows, ∃ todo ∈ requested, row = TodoRow.ofNew row.id now todo := by
    induction h with
    | nil => simp
    | @cons row todo _ _ hrow _ ih =>
      refine List.forall_mem_cons.2 ⟨⟨todo, List.mem_cons_self, hrow⟩, fun other hother => ?_⟩
      obtain ⟨request, hmem, hrequest⟩ := ih other hother
      exact ⟨request, List.mem_cons_of_mem _ hmem, hrequest⟩
  intro row hrow
  obtain ⟨todo, htodo, heq⟩ := hmatched h.requested row hrow
  exact ⟨todo, (List.mem_filter.1 htodo).1, heq⟩

/-- The users with new rows are those of the to-dos that none stood in the way of. -/
theorem map_userId (h : Inserted now db db' todos rows) :
    rows.map (·.userId) =
      (todos.filter fun todo => !db.todos.any (blocks · todo)).map (.ofId ·.userId) := by
  have hsame : List.Forall₂ (· = ·) (rows.map (·.userId))
      ((todos.filter fun todo => !db.todos.any (blocks · todo)).map (.ofId ·.userId)) := by
    rw [List.forall₂_map_left_iff, List.forall₂_map_right_iff]
    exact h.requested.imp fun row todo hrow => congrArg TodoRow.userId hrow
  rwa [List.forall₂_eq_eq_eq] at hsame

/-- A user has a new row if none stood in the way of a to-do for them. -/
theorem exists_row_iff (h : Inserted now db db' todos rows) {user : UserId} :
    (∃ row ∈ rows, row.belongsTo user = true) ↔
      ∃ todo ∈ todos, todo.userId = user ∧ db.todos.any (blocks · todo) = false := by
  have hmem : (∃ row ∈ rows, row.belongsTo user = true) ↔ .ofId user ∈ rows.map (·.userId) := by
    simp [TodoRow.belongsTo]
  rw [hmem, h.map_userId, List.mem_map]
  refine exists_congr fun todo => ?_
  rw [List.mem_filter, Cell.ofId_inj, Bool.not_eq_true', and_assoc, and_comm (a := _ = false)]

variable (husers : (todos.map (·.userId)).Nodup)

include husers

/-- No user has two new rows. -/
theorem nodup (h : Inserted now db db' todos rows) : (rows.map (·.userId)).Nodup := by
  have hcells : ((todos.map (·.userId)).map Cell.ofId).Nodup :=
    husers.map fun _ _ => Cell.ofId_inj.1
  rw [List.map_map] at hcells
  rw [h.map_userId]
  exact hcells.sublist (List.filter_sublist.map _)

/-- The new row of a user is the only one. -/
theorem filter_belongsTo (h : Inserted now db db' todos rows) {row : TodoRow} (hrow : row ∈ rows)
    {user : UserId} (hbelongs : row.belongsTo user = true) :
    rows.filter (·.belongsTo user) = [row] := by
  have hnodup := h.nodup husers
  rw [← List.perm_singleton,
    List.perm_ext_iff_of_nodup (hnodup.of_map.filter _) (List.nodup_singleton row)]
  intro other
  rw [List.mem_filter, List.mem_singleton]
  constructor
  · rintro ⟨hother, hsame⟩
    refine List.inj_on_of_nodup_map hnodup hother hrow ?_
    exact (of_decide_eq_true hsame).trans (of_decide_eq_true hbelongs).symm
  · rintro rfl
    exact ⟨hrow, hbelongs⟩

/-- The recipient of a to-do has a new row if none stood in its way. -/
theorem exists_row_iff_of_mem (h : Inserted now db db' todos rows) {todo : NewTodo}
    (htodo : todo ∈ todos) : (∃ row ∈ rows, row.belongsTo todo.userId = true) ↔
      db.todos.any (blocks · todo) = false := by
  rw [h.exists_row_iff]
  constructor
  · rintro ⟨other, hother, hsame, hfree⟩
    rwa [List.inj_on_of_nodup_map husers hother htodo hsame] at hfree
  · exact fun hfree => ⟨todo, htodo, rfl, hfree⟩

end Inserted

end Ledger

/-! ### Recipients who are asked -/

/-- The user is asked to look at the target for one of the actions, and has a new row if and only if
nothing asked them before. -/
structure IsPrompted (before after : Database) (rows : List TodoRow) (user : UserId)
    (target : TargetRef) (actions : List Action) : Prop where
  pending : 0 < after.pendingFor user target actions
  new : (∃ row ∈ rows, row.belongsTo user = true) ↔ before.pendingFor user target actions = 0

/-- **After a batch of new to-dos for different users all recipients are asked**, and those have a
new row who were not asked before. -/
theorem Ledger.Inserted.isPrompted {done : Run} (hran : Ran now db (todos.map .upsert) done)
    (h : Inserted now db done.database todos rows) (husers : (todos.map (·.userId)).Nodup)
    {todo : NewTodo} (htodo : todo ∈ todos) {actions : List Action}
    (hactions : actions ∈ Action.exclusive) (haction : todo.action ∈ actions) :
    IsPrompted db done.database rows todo.userId todo.target actions := by
  have hconflicts : todo.action.conflicts = actions := conflicts_of_exclusive hactions haction
  constructor
  · rw [← any_blocks_iff hactions haction]
    exact hran.any_blocks_of_upserts htodo (hconflicts ▸ haction)
  · rw [h.exists_row_iff_of_mem husers htodo, ← Nat.le_zero, ← Nat.not_lt,
      ← any_blocks_iff hactions haction, Bool.not_eq_true]

end TodoLedger
