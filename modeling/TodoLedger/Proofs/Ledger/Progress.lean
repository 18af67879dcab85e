import TodoLedger.Proofs.Ledger.Lookup

/-!
# Batches that succeed

* **In a well-formed database a revision succeeds if it is permitted** (`exists_step_of_permitted`),
  since the owners of all rows are readable.
* **A new to-do is put in if it is admitted and the table can have one more row**
  (`exists_step_of_admits`), or a row stands in its way.
* So a batch of a revision and of new to-dos succeeds, if the revision is permitted, the to-dos are
  admitted, and there is room for them (`exists_apply`).
-/

namespace TodoLedger.Ledger

variable {now : Int64} {db : Database} {op : Op} {change : Change} {todos : List NewTodo}

/-! ### Steps -/

section Steps

variable (now : Int64) (hdb : WellFormed db)

include hdb

/-- Pending rows can be resolved. -/
theorem exists_resolveWhere (resolution : Resolution) (selected : TodoRow → Bool) :
    ∃ change, resolveWhere now resolution selected db = .ok change := by
  obtain ⟨users, husers⟩ := hdb.exists_ownersOf fun row => row.isPending && selected row
  exact ⟨_, bind_eq_ok_iff.2 ⟨users, husers, rfl⟩⟩

/-- Done rows can be restored. -/
theorem exists_restoreWhere (selected : TodoRow → Bool) :
    ∃ change, restoreWhere now selected db = .ok change := by
  obtain ⟨users, husers⟩ := hdb.exists_ownersOf fun row => row.isDone && selected row
  exact ⟨_, bind_eq_ok_iff.2 ⟨users, husers, rfl⟩⟩

/-- Rows on a target can be deleted. -/
theorem exists_purge (target : TargetRef) : ∃ change, purge target db = .ok change := by
  obtain ⟨users, husers⟩ := hdb.exists_ownersOf (·.points target)
  obtain ⟨owners, howners⟩ := hdb.exists_ownersOf fun row => row.isPending && row.points target
  have hpending : pendingOwners (db.todos.filter (·.points target)) =
      .ok ((ascending (owners.map rowId)).map idOfRow) := by
    rw [← List.filter_filter] at howners
    exact bind_eq_ok_iff.2 ⟨owners, howners, rfl⟩
  exact ⟨_, bind_eq_ok_iff.2 ⟨users, husers, bind_eq_ok_iff.2 ⟨_, hpending, rfl⟩⟩⟩

/-- **A revision succeeds if it is permitted.** -/
theorem exists_step_of_permitted (hop : op.isRevision = true) (hpermitted : op.Permitted db) :
    ∃ change, step now op db = .ok change := by
  cases op with
  | upsert => cases hop
  | resolveForTarget | resolveAllForUser => exact exists_resolveWhere now hdb _ _
  | resolveCollection ids user resolution =>
    have hchecked : checkOwnership db user ids = .ok () :=
      (checkOwnership_eq_ok_iff hdb).2 hpermitted
    obtain ⟨change, hchange⟩ := exists_resolveWhere now hdb resolution (isNamed ids ·.id)
    exact ⟨change, bind_eq_ok_iff.2 ⟨(), hchecked, hchange⟩⟩
  | restoreCollection ids user =>
    have hchecked : checkOwnership db user ids = .ok () :=
      (checkOwnership_eq_ok_iff hdb).2 hpermitted
    obtain ⟨change, hchange⟩ := exists_restoreWhere now hdb (isNamed ids ·.id)
    exact ⟨change, bind_eq_ok_iff.2 ⟨(), hchecked, hchange⟩⟩
  | purgeTarget target => exact exists_purge hdb target

end Steps

/-- **A new to-do is put in if it is admitted and the table can have one more row**, or a row stands
in its way. -/
theorem exists_step_of_admits (now : Int64) {todo : NewTodo} (hroom : db.todos.length + 1 < 2 ^ 63)
    (hadmits : admits db todo = true) : ∃ change, step now (.upsert todo) db = .ok change := by
  have hlength : (db.todos.map (·.id)).length + 1 < 2 ^ 63 := by rwa [List.length_map]
  obtain ⟨id, hid⟩ := exists_freeRowId? hlength
  simp only [step, upsert, hid, hadmits, if_true]
  split
  · exact ⟨_, rfl⟩
  · exact ⟨_, rfl⟩

/-! ### Batches -/

/-- A step adds one row at most. -/
theorem Stepped.length_le (h : Stepped now db op change) :
    change.database.todos.length ≤ db.todos.length + 1 := by
  rcases h.database_cases with ⟨_, hrevised⟩ | ⟨todo, _, hsame | ⟨id, _, hinserted⟩⟩
  · rw [hrevised]
    exact Nat.le_succ_of_le (List.length_filterMap_le _ _)
  · rw [hsame]
    exact Nat.le_succ _
  · rw [hinserted, List.length_append]
    exact Nat.le_refl _

/-- What is admitted stays so in a step. -/
theorem Stepped.admits (h : Stepped now db op change) {todo : NewTodo}
    (hadmits : Ledger.admits db todo = true) : Ledger.admits change.database todo = true := by
  rw [h.database_eq]
  exact admits_of_extends (.of_eq rfl rfl) hadmits

/-- New to-dos are put in one after the other if they are admitted and there is room for them. -/
theorem exists_run_upserts (now : Int64) (hdb : WellFormed db)
    (hroom : db.todos.length + todos.length < 2 ^ 63)
    (hadmits : ∀ todo ∈ todos, admits db todo = true) :
    ∃ done, run now (todos.map .upsert) db = .ok done := by
  induction todos generalizing db with
  | nil => exact ⟨_, rfl⟩
  | cons todo rest ih =>
    rw [List.forall_mem_cons] at hadmits
    rw [List.length_cons] at hroom
    obtain ⟨change, hstep⟩ := exists_step_of_admits now (by omega) hadmits.1
    have hstepped := stepped_of_step hstep
    have hlength := hstepped.length_le
    have hrest : ∀ other ∈ rest, admits change.database other = true :=
      fun other hother => hstepped.admits (hadmits.2 other hother)
    exact exists_run_cons hstep (ih (hdb.step hstepped) (by omega) hrest)

/-- **A revision alone succeeds if it is permitted**, whatever room there is. -/
theorem exists_apply_revision (now : Int64) (hdb : WellFormed db) (hop : op.isRevision = true)
    (hpermitted : op.Permitted db) : ∃ db' effects, apply now [op] db = .ok (db', effects) := by
  obtain ⟨change, hstep⟩ := exists_step_of_permitted now hdb hop hpermitted
  obtain ⟨done, hdone⟩ : ∃ done, run now [op] db = .ok done := exists_run_cons hstep ⟨_, rfl⟩
  exact ⟨_, _, bind_eq_ok_iff.2 ⟨done, hdone, rfl⟩⟩

/-- **A batch of a revision and of new to-dos succeeds**, if the revision is permitted, the to-dos
are admitted, and there is room for them. -/
theorem exists_apply (now : Int64) (hdb : WellFormed db) {revision? : Option Op}
    (hrevision : ∀ op, revision? = some op → op.isRevision = true ∧ op.Permitted db)
    (hroom : db.todos.length + todos.length < 2 ^ 63)
    (hadmits : ∀ todo ∈ todos, admits db todo = true) :
    ∃ db' effects, apply now (revision?.toList ++ todos.map .upsert) db = .ok (db', effects) := by
  have hrun : ∃ done, run now (revision?.toList ++ todos.map .upsert) db = .ok done := by
    cases revision? with
    | none => exact exists_run_upserts now hdb hroom hadmits
    | some op =>
      obtain ⟨hop, hpermitted⟩ := hrevision op rfl
      obtain ⟨change, hstep⟩ := exists_step_of_permitted now hdb hop hpermitted
      have hstepped := stepped_of_step hstep
      have hlength : change.database.todos.length ≤ db.todos.length := by
        rw [hstepped.eq_revised hop]
        exact List.length_filterMap_le _ _
      have hrest : ∀ todo ∈ todos, admits change.database todo = true :=
        fun todo htodo => hstepped.admits (hadmits todo htodo)
      exact exists_run_cons hstep (exists_run_upserts now (hdb.step hstepped) (by omega) hrest)
  obtain ⟨done, hdone⟩ := hrun
  exact ⟨_, _, bind_eq_ok_iff.2 ⟨done, hdone, rfl⟩⟩

end TodoLedger.Ledger
