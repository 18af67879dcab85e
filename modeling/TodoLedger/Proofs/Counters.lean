import TodoLedger.Database.Query
import TodoLedger.Proofs.Service.History

/-!
# The cached numbers of to-dos

* `Counted db`: what is cached with each user is what counting the user's rows gives.
* **Every way to write keeps the cached numbers true** (`Counted.written`). A batch counts again for
  the users whom its ops touch; all others keep their rows.
* **After all calls the cached numbers are those of the rows, and together they are all rows of the
  user** (`cachedCounts_after`).
-/

namespace TodoLedger

open Ledger (Op Effect recount)

variable {db db' : Database}

/-! ### Numbers of rows -/

/-- The rows of one state are among the rows of the user. -/
theorem countState_eq (db : Database) (id : Int64) (state : TodoState) :
    db.countState id state =
      (db.todos.filter (·.belongsTo (idOfRow id))).countP (·.state = state.name) := by
  rw [Database.countState, List.countP_filter]
  refine List.countP_congr fun row _ => ?_
  rw [TodoRow.belongsTo, Cell.ofId, rowId_idOfRow, Bool.and_comm]

/-- A row of a valid to-do is counted as pending or as done. -/
theorem countP_lives {rows : List TodoRow} (h : ∀ row ∈ rows, row.Lives) :
    rows.countP (·.state = TodoState.pending.name) + rows.countP (·.state = TodoState.done.name) =
      rows.length := by
  induction rows with
  | nil => rfl
  | cons row rest ih =>
    have hrest := ih fun row hrow => h row (List.mem_cons_of_mem _ hrow)
    rw [List.countP_cons, List.countP_cons, List.length_cons]
    rcases h row List.mem_cons_self with ⟨hstate, _⟩ | ⟨hstate, _⟩
    · rw [if_pos (decide_eq_true hstate), if_neg (by simp [hstate, TodoState.name])]
      omega
    · rw [if_neg (by simp [hstate, TodoState.name]), if_pos (decide_eq_true hstate)]
      omega

/-- **The pending and the done rows of a user are all rows of the user.** -/
theorem countState_add (hdb : WellFormed db) (id : Int64) :
    db.countState id .pending + db.countState id .done =
      db.todos.countP (·.belongsTo (idOfRow id)) := by
  rw [countState_eq, countState_eq, countP_lives, List.countP_eq_length_filter]
  intro row hrow
  exact (hdb.todoRows row (List.mem_filter.1 hrow).1).lives

/-- No table has too many rows for their number to be kept in a cell. -/
theorem countP_lt (hdb : WellFormed db) (p : TodoRow → Bool) : db.todos.countP p < 2 ^ 63 := by
  have hlength := hdb.todos.length_lt
  rw [List.length_map] at hlength
  exact Nat.lt_of_le_of_lt List.countP_le_length hlength

/-! ### Counting again -/

/-- Counting again gives the same where the user's rows are the same. -/
theorem recount_congr {row : UserRow}
    (h : db'.todos.filter (·.belongsTo (idOfRow row.id)) =
      db.todos.filter (·.belongsTo (idOfRow row.id))) : recount db' row = recount db row := by
  simp only [recount, countState_eq, h]

/-- What is cached with each user is what counting the user's rows gives. -/
def Counted (db : Database) : Prop := ∀ row ∈ db.users, recount db row = row

namespace Counted

/-- The database without rows has nothing to count. -/
theorem empty : Counted .empty := fun _ h => absurd h List.not_mem_nil

/-- Projects and members are not counted. -/
theorem of_eq (hdb : Counted db) (husers : db'.users = db.users) (htodos : db'.todos = db.todos) :
    Counted db' := by
  intro row hrow
  rw [husers] at hrow
  calc recount db' row = recount db row := recount_congr (by rw [htodos])
    _ = row := hdb row hrow

/-- What is counted again already is not changed by that. -/
theorem refresh_eq (hdb : Counted db) (users : List UserId) : Ledger.refresh users db = db := by
  have hkept : ∀ row ∈ db.users, (if isNamed users row.id then recount db row else row) = row := by
    intro row hrow
    rw [hdb row hrow, ite_self]
  rw [Ledger.refresh, List.map_congr_left hkept, List.map_id']

/-- **A batch counts again for all users whose rows it changes.** -/
theorem ran {now : Int64} {ops : List Op} {done : Ledger.Run} (hdb : Counted db)
    (hwf : WellFormed db) (hran : Ledger.Ran now db ops done) :
    Counted (Ledger.refresh done.touched done.database) := by
  intro row hrow
  obtain ⟨before, hbefore, rfl⟩ := List.mem_map.1 hrow
  rw [hran.database_eq] at hbefore
  split
  · rfl
  · next huntouched =>
    have hpositive : 0 < before.id := hwf.users.positive _ (List.mem_map_of_mem hbefore)
    have huser : idOfRow before.id ∉ done.touched := by
      intro huser
      exact huntouched (isNamed_iff.2 ⟨Int64.le_of_lt hpositive, huser⟩)
    calc recount (Ledger.refresh done.touched done.database) before
        = recount db before := recount_congr (hran.filter_eq_of_not_touched huser)
      _ = before := hdb before hbefore

/-- A batch that is applied keeps the cached numbers true. -/
theorem apply {now : Int64} {ops : List Op} {effects : List Effect} (hdb : Counted db)
    (hwf : WellFormed db) (h : Ledger.apply now ops db = .ok (db', effects)) : Counted db' := by
  obtain ⟨done, hran, rfl, _⟩ := Ledger.exists_ran_of_apply h
  exact hdb.ran hwf hran

/-- A new user has no rows. -/
theorem createUser {handle : String} {admin : Bool} {id : UserId} (hdb : Counted db)
    (hwf : WellFormed db) (h : db.createUser handle admin = .ok (db', id)) : Counted db' := by
  rw [Database.createUser] at h
  split at h
  · cases h
  · next free hfree =>
    split at h
    · cases h
    · cases h
      have hnone (state : TodoState) : db.countState free state = 0 := by
        rw [Database.countState, List.countP_eq_zero]
        intro row hrow hcounted
        obtain ⟨owner, howner, huserId⟩ := (hwf.todoRows row hrow).exists_recipient
        simp only [huserId, Bool.and_eq_true, decide_eq_true_eq, Cell.integer.injEq] at hcounted
        exact not_mem_of_freeRowId? hfree (hcounted.1 ▸ howner)
      intro row hrow
      rcases List.mem_append.1 hrow with hrow | hrow
      · exact hdb row hrow
      · rw [List.mem_singleton] at hrow
        subst hrow
        change UserRow.mk _ _ _ (Int64.ofNat (db.countState free .pending))
          (Int64.ofNat (db.countState free .done)) = _
        rw [hnone, hnone]
        rfl

/-- **Every way to write keeps the cached numbers true.** -/
theorem written (hdb : Counted db) (hwf : WellFormed db) (h : Service.Written db db') :
    Counted db' := by
  cases h with
  | kept => exact hdb
  | user h => exact hdb.createUser hwf h
  | project h =>
    rw [Database.eq_of_createProject h]
    exact hdb.of_eq rfl rfl
  | member h =>
    rw [Database.eq_of_setMember h]
    exact hdb.of_eq rfl rfl
  | batch h => exact hdb.apply hwf h

end Counted

/-- After all calls what is cached with each user is what counting the user's rows gives. -/
theorem counted_after (calls : List Service.Call) :
    Counted (Service.State.after calls).database := by
  have hboth := Service.State.after_induction (P := fun db => WellFormed db ∧ Counted db)
    ⟨.empty, .empty⟩
    (fun h hwritten => ⟨Service.wellFormed_written h.1 hwritten, h.2.written h.1 hwritten⟩) calls
  exact hboth.2

/-! ### Questions -/

/-- The number of a user's rows is read back from its cell. -/
theorem toNat_idOfRow_ofNat {n : Nat} (h : n < 2 ^ 63) : (idOfRow (Int64.ofNat n)).toNat = n := by
  change n % 2 ^ 64 = n
  omega

/-- In a well-formed database the rows of a user can be counted. -/
theorem countTodos_of_wellFormed (hdb : WellFormed db) (id : UserId) :
    db.countTodos id = .ok ⟨UInt64.ofNat (db.countState (rowId id) .pending),
      UInt64.ofNat (db.countState (rowId id) .done)⟩ := by
  have hknown : (ascending ((db.todos.filter (·.belongsTo id)).map (·.state))).find?
      (fun name => (TodoState.ofName? name).isNone) = none := by
    rw [List.find?_eq_none]
    intro name hname
    rw [mem_ascending] at hname
    obtain ⟨row, hrow, rfl⟩ := List.mem_map.1 hname
    rcases (hdb.todoRows row (List.mem_filter.1 hrow).1).lives with ⟨hstate, _⟩ | ⟨hstate, _⟩
    · simp [hstate]
    · simp [hstate]
  rw [Database.countTodos, hknown]

/-- The cached numbers of a user are read back as they were counted. -/
theorem Counted.counts (hdb : Counted db) (hwf : WellFormed db) {id : UserId} {user : User}
    (h : db.user? id = some user) :
    db.cachedCounts id = .ok ⟨user.pendingCount, user.doneCount⟩ ∧
      db.countTodos id = .ok ⟨user.pendingCount, user.doneCount⟩ ∧
      user.pendingCount.toNat + user.doneCount.toNat = db.todos.countP (·.belongsTo id) := by
  obtain ⟨row, hrow, rfl⟩ := Option.map_eq_some_iff.1 h
  have hid := List.find?_some hrow
  rw [decide_eq_true_eq] at hid
  have hcounted : recount db row = row := hdb row (List.mem_of_find?_eq_some hrow)
  have hpending : row.pending = Int64.ofNat (db.countState (rowId id) .pending) := by
    rw [← hid, ← hcounted]
    rfl
  have hdone : row.done = Int64.ofNat (db.countState (rowId id) .done) := by
    rw [← hid, ← hcounted]
    rfl
  have hlt (state : TodoState) : db.countState (rowId id) state < 2 ^ 63 := countP_lt hwf _
  refine ⟨?_, ?_, ?_⟩
  · rw [Database.cachedCounts, hrow]
    rfl
  · rw [countTodos_of_wellFormed hwf, UserRow.read, hpending, hdone]
    rfl
  · rw [UserRow.read, hpending, hdone, toNat_idOfRow_ofNat (hlt _), toNat_idOfRow_ofNat (hlt _),
      countState_add hwf, idOfRow_rowId]

/-- **After all calls the cached numbers of a user are those that counting the rows gives, and
together they are all rows of the user.** -/
theorem cachedCounts_after (calls : List Service.Call) {id : UserId} {user : User}
    (h : (Service.State.after calls).database.user? id = some user) :
    let db := (Service.State.after calls).database
    db.cachedCounts id = .ok ⟨user.pendingCount, user.doneCount⟩ ∧
      db.countTodos id = .ok ⟨user.pendingCount, user.doneCount⟩ ∧
      user.pendingCount.toNat + user.doneCount.toNat = db.todos.countP (·.belongsTo id) :=
  (counted_after calls).counts (Service.wellFormed_after calls) h

/-- A history in which an event counts, and a batch that fails does not. -/
theorem cachedCounts_after_assignment :
    let calls : List Service.Call := [.createUser "ada" false, .createUser "bob" false,
      .createProject "engine" .everyone false,
      .handle ⟨Unit, .builtIn {}, ()⟩ {} 7
        (.newIssue { id := 5, projectId := 1, authorId := 2, assignees := [1] } 2),
      .apply 8
        [.resolveAllForUser 1 .markDone, .purgeTarget (.row .issue 5), .restoreCollection [1] 1]]
    let db := (Service.State.after calls).database
    db.user? 1 = some ⟨1, "ada", false, 1, 0⟩ ∧
      db.cachedCounts 1 = .ok ⟨1, 0⟩ ∧ db.countTodos 1 = .ok ⟨1, 0⟩ ∧
        (1 : UInt64).toNat + (0 : UInt64).toNat = db.todos.countP (·.belongsTo 1) := by
  intro calls db
  have huser : db.user? 1 = some ⟨1, "ada", false, 1, 0⟩ := by decide +kernel
  exact ⟨huser, cachedCounts_after calls huser⟩

end TodoLedger
