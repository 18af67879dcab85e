import Mathlib.Data.List.Find
import TodoLedger.Database.Accounts
import TodoLedger.Proofs.WellFormed

/-!
# Rows that are looked up

* `Database.todoRow?` looks a row up by the id of its to-do. In a keyed table it finds each row, and
  nothing else (`todoRow?_eq_some_iff`).
* What it finds after a write follows from what it found before: after all rows were revised
  (`todoRow?_revised`) and after a row was put in behind the others (`todoRow?_append`).
* A set of ids is refused or not for what its ids look up (`refusal?_eq_none_iff`,
  `checkOwnership_eq_ok_iff`).
* Counting again changes the row of a user in its cached numbers only (`userRow?_refresh`), so a
  batch changes neither who is behind a handle nor who sees what (`Ledger.Ran.userId?_refresh`,
  `Ledger.Ran.canSee_refresh`).
-/

namespace TodoLedger

open Ledger (Op revised)

variable {db : Database} {id : TodoId} {row : TodoRow}

/-- Where keys are distinct, each row is found by its key, and only that one. -/
theorem find?_key_eq_some_iff {α κ : Type} [DecidableEq κ] {key : α → κ} {rows : List α} {k : κ}
    {row : α} (hkeys : (rows.map key).Nodup) :
    rows.find? (key · = k) = some row ↔ row ∈ rows ∧ key row = k := by
  constructor
  · intro h
    have hkey := List.find?_some h
    rw [decide_eq_true_eq] at hkey
    exact ⟨List.mem_of_find?_eq_some h, hkey⟩
  · rintro ⟨hrow, hkey⟩
    have hsome : (rows.find? (key · = k)).isSome = true :=
      List.find?_isSome.2 ⟨row, hrow, decide_eq_true hkey⟩
    obtain ⟨found, hfound⟩ := Option.isSome_iff_exists.1 hsome
    have hfoundKey := List.find?_some hfound
    rw [decide_eq_true_eq] at hfoundKey
    rw [hfound, List.inj_on_of_nodup_map hkeys (List.mem_of_find?_eq_some hfound) hrow
      (hfoundKey.trans hkey.symm)]

/-- The row of the to-do with that id. -/
def Database.todoRow? (db : Database) (id : TodoId) : Option TodoRow :=
  db.todos.find? (·.id = rowId id)

/-- A row that is found is in the table. -/
theorem mem_of_todoRow? (h : db.todoRow? id = some row) : row ∈ db.todos :=
  List.mem_of_find?_eq_some h

/-- A row that is found has the id for which it was looked up. -/
theorem id_of_todoRow? (h : db.todoRow? id = some row) : row.id = rowId id := by
  have hid := List.find?_some h
  rwa [decide_eq_true_eq] at hid

/-- No row is found for an id that no row has. -/
theorem todoRow?_eq_none_iff : db.todoRow? id = none ↔ rowId id ∉ db.todos.map (·.id) := by
  simp [Database.todoRow?]

/-- In a keyed table each row is found by its id, and only that one. -/
theorem todoRow?_eq_some_iff (hkeyed : Keyed (db.todos.map (·.id))) :
    db.todoRow? id = some row ↔ row ∈ db.todos ∧ row.id = rowId id :=
  find?_key_eq_some_iff hkeyed.nodup

/-- Ids of rows are listed once. -/
theorem nodup_idsOf (rows : List TodoRow) : (Ledger.idsOf rows).Nodup :=
  nodup_ascending _

/-- In a keyed table the ids of some rows are those for which one of these is found. -/
theorem mem_idsOf_filter (hkeyed : Keyed (db.todos.map (·.id))) {p : TodoRow → Bool} :
    id ∈ Ledger.idsOf (db.todos.filter p) ↔ ∃ row, db.todoRow? id = some row ∧ p row = true := by
  rw [Ledger.idsOf, mem_ascending, List.mem_map]
  constructor
  · rintro ⟨row, hrow, rfl⟩
    obtain ⟨hmem, hp⟩ := List.mem_filter.1 hrow
    exact ⟨row, (todoRow?_eq_some_iff hkeyed).2 ⟨hmem, (rowId_idOfRow row.id).symm⟩, hp⟩
  · rintro ⟨row, hfound, hp⟩
    refine ⟨row, List.mem_filter.2 ⟨mem_of_todoRow? hfound, hp⟩, ?_⟩
    rw [id_of_todoRow? hfound, idOfRow_rowId]

/-- In a keyed table ids name the row for which an id is looked up if the id is among them. -/
theorem isNamed_iff_mem (hkeyed : Keyed (db.todos.map (·.id))) (hrow : db.todoRow? id = some row)
    {ids : List TodoId} : isNamed ids row.id = true ↔ id ∈ ids := by
  have hpositive := hkeyed.positive _ (List.mem_map_of_mem (mem_of_todoRow? hrow))
  rw [isNamed_iff, id_of_todoRow? hrow, idOfRow_rowId, ← id_of_todoRow? hrow]
  exact and_iff_right (Int64.le_of_lt hpositive)

/-! ### After a write -/

/-- **After all rows were revised, what became of the row is found.** -/
theorem todoRow?_revised (now : Int64) (op : Op) (hkeyed : Keyed (db.todos.map (·.id)))
    (id : TodoId) : (revised now op db).todoRow? id = (db.todoRow? id).bind (op.revise now) := by
  have hrevised : Keyed ((revised now op db).todos.map (·.id)) :=
    hkeyed.sublist (Ledger.map_id_revise_sublist now op db.todos)
  ext after
  rw [todoRow?_eq_some_iff hrevised, Option.bind_eq_some_iff, revised, List.mem_filterMap]
  constructor
  · rintro ⟨⟨before, hbefore, hrevise⟩, hid⟩
    rw [TodoRow.id_eq_of_origin_eq (Op.revise_origin hrevise)] at hid
    exact ⟨before, (todoRow?_eq_some_iff hkeyed).2 ⟨hbefore, hid⟩, hrevise⟩
  · rintro ⟨before, hfound, hrevise⟩
    obtain ⟨hbefore, hid⟩ := (todoRow?_eq_some_iff hkeyed).1 hfound
    rw [TodoRow.id_eq_of_origin_eq (Op.revise_origin hrevise)]
    exact ⟨⟨before, hbefore, hrevise⟩, hid⟩

/-- **After a row with a free id was put in, it is found by that id**, and for any other id what was
found before. -/
theorem todoRow?_append (hfree : row.id ∉ db.todos.map (·.id)) (id : TodoId) :
    ({ db with todos := db.todos ++ [row] } : Database).todoRow? id =
      if id = idOfRow row.id then some row else db.todoRow? id := by
  rw [Database.todoRow?, List.find?_append]
  split
  · next hid =>
    subst hid
    have hnone : db.todoRow? (idOfRow row.id) = none := by
      rw [todoRow?_eq_none_iff, rowId_idOfRow]
      exact hfree
    rw [Database.todoRow?] at hnone
    rw [hnone, List.find?_cons_of_pos (by simp)]
    rfl
  · next hid =>
    have hother : ¬row.id = rowId id := fun h => hid (by rw [h, idOfRow_rowId])
    rw [List.find?_cons_of_neg (by simpa using hother), List.find?_nil, Option.or_none]
    rfl

/-- Where new to-dos are put in, all rows are found as before. -/
theorem todoRow?_of_upserts {now : Int64} {todos : List NewTodo} {done : Ledger.Run}
    (h : Ledger.Ran now db (todos.map .upsert) done) (hrow : db.todoRow? id = some row) :
    done.database.todoRow? id = some row := by
  obtain ⟨rows, hrows, _⟩ := h.append_of_upserts
  rw [Database.todoRow?] at hrow
  rw [Database.todoRow?, hrows, List.find?_append, hrow, Option.some_or]

/-! ### Sets of ids -/

/-- An id is refused for what it looks up. -/
theorem refusal?_eq (hkeyed : Keyed (db.todos.map (·.id))) (user : UserId) (id : TodoId) :
    Ledger.refusal? db user id = match db.todoRow? id with
      | none => some (.todoNotFound id)
      | some row => if row.belongsTo user then none else some (.notOwned id user) := by
  have hnamed : ∀ row ∈ db.todos, isNamed [id] row.id = decide (row.id = rowId id) := by
    intro row hrow
    have hpositive := hkeyed.positive _ (List.mem_map_of_mem hrow)
    rw [Bool.eq_iff_iff, isNamed_singleton_iff, decide_eq_true_eq]
    exact and_iff_right (Int64.le_of_lt hpositive)
  have hfind : db.todos.find? (fun row => isNamed [id] row.id) = db.todoRow? id :=
    List.find?_congr hnamed
  calc Ledger.refusal? db user id
    _ = match db.todos.find? (fun row => isNamed [id] row.id) with
      | none => some (.todoNotFound id)
      | some row => if row.belongsTo user then none else some (.notOwned id user) := rfl
    _ = _ := by rw [hfind]

/-- An id is not refused if it is that of a to-do of the user. -/
theorem refusal?_eq_none_iff (hkeyed : Keyed (db.todos.map (·.id))) {user : UserId} :
    Ledger.refusal? db user id = none ↔
      ∃ row, db.todoRow? id = some row ∧ row.belongsTo user = true := by
  rw [refusal?_eq hkeyed]
  cases db.todoRow? id with
  | none => simp
  | some row => simp

/-- In a well-formed database the owners of all rows are readable. -/
theorem WellFormed.exists_ownersOf (hdb : WellFormed db) (p : TodoRow → Bool) :
    ∃ users, Ledger.ownersOf (db.todos.filter p) = .ok users := by
  have hreadable : ∀ rows : List TodoRow, (∀ row ∈ rows, row.Valid db) →
      ∃ users : List UserId, rows.map (·.userId) = users.map .ofId := by
    intro rows hrows
    induction rows with
    | nil => exact ⟨[], rfl⟩
    | cons row rest ih =>
      obtain ⟨users, husers⟩ := ih fun row hrow => hrows row (List.mem_cons_of_mem _ hrow)
      obtain ⟨owner, _, howner⟩ := (hrows row List.mem_cons_self).exists_recipient
      refine ⟨idOfRow owner :: users, ?_⟩
      rw [List.map_cons, List.map_cons, husers, howner, Cell.ofId, rowId_idOfRow]
  obtain ⟨users, husers⟩ := hreadable (db.todos.filter p) fun row hrow =>
    hdb.todoRows row (List.mem_filter.1 hrow).1
  exact ⟨users, Ledger.ownersOf_eq_ok_iff.2 husers⟩

/-- If the owners are readable, a set of ids is refused on account of the least that is refused. -/
theorem checkOwnership_of_ownersOf {ids : List TodoId} {users : List UserId}
    (howners : Ledger.ownersOf (db.todos.filter (isNamed ids ·.id)) = .ok users) (user : UserId) :
    Ledger.checkOwnership db user ids =
      match (ascending ids).findSome? (Ledger.refusal? db user) with
      | some error => .error error
      | none => .ok () := by
  rw [Ledger.checkOwnership, howners]
  rfl

/-- If the owners are readable, one id is refused or let pass by itself. -/
theorem checkOwnership_singleton {users : List UserId}
    (howners : Ledger.ownersOf (db.todos.filter (isNamed [id] ·.id)) = .ok users) (user : UserId) :
    Ledger.checkOwnership db user [id] =
      match Ledger.refusal? db user id with
      | some error => .error error
      | none => .ok () := by
  rw [checkOwnership_of_ownersOf howners, ascending_cons, ascending_nil, insertAscending,
    List.findSome?_singleton]

/-- In a well-formed database a set of ids is refused on account of its least id that is refused. -/
theorem checkOwnership_eq (hdb : WellFormed db) (user : UserId) (ids : List TodoId) :
    Ledger.checkOwnership db user ids =
      match (ascending ids).findSome? (Ledger.refusal? db user) with
      | some error => .error error
      | none => .ok () := by
  obtain ⟨users, husers⟩ := hdb.exists_ownersOf (isNamed ids ·.id)
  exact checkOwnership_of_ownersOf husers user

/-- In a well-formed database a set of ids is let pass if no id of it is refused. -/
theorem checkOwnership_eq_ok_iff (hdb : WellFormed db) {user : UserId} {ids : List TodoId} :
    Ledger.checkOwnership db user ids = .ok () ↔
      ∀ id ∈ ids, Ledger.refusal? db user id = none := by
  refine ⟨Ledger.permitted_of_checkOwnership, fun h => ?_⟩
  have hnone : (ascending ids).findSome? (Ledger.refusal? db user) = none := by
    rw [List.findSome?_eq_none_iff]
    intro id hid
    exact h id (mem_ascending.1 hid)
  rw [checkOwnership_eq hdb, hnone]

/-! ### Users -/

/-- Counting again for some users gives these new rows. -/
theorem userRow?_refresh (users : List UserId) (db : Database) (user : UserId) :
    (Ledger.refresh users db).userRow? user = (db.userRow? user).map fun row =>
      if isNamed users row.id then Ledger.recount db row else row := by
  rw [Database.userRow?, Ledger.refresh, List.find?_map, Ledger.comp_recount users db fun _ => rfl]
  rfl

/-- Counting again for others keeps the row of a user. -/
theorem userRow?_refresh_of_not_mem {users : List UserId} {user : UserId} (huser : user ∉ users)
    (db : Database) : (Ledger.refresh users db).userRow? user = db.userRow? user := by
  rw [userRow?_refresh]
  cases hrow : db.userRow? user with
  | none => rfl
  | some row =>
    have hid := List.find?_some hrow
    rw [decide_eq_true_eq] at hid
    have hnot : ¬isNamed users row.id = true := by
      rw [isNamed_iff, hid, idOfRow_rowId]
      exact fun hnamed => huser hnamed.2
    rw [Option.map_some, if_neg hnot]

namespace Ledger.Ran

variable {now : Int64} {ops : List Op} {done : Run}

/-- **A batch does not change who is behind a handle.** -/
theorem userId?_refresh (h : Ran now db ops done) :
    (refresh done.touched done.database).userId? = db.userId? := by
  funext handle
  rw [Database.userId?, Database.userId?, refresh, List.find?_map, Option.map_map,
    comp_recount _ _ fun _ => rfl, comp_recount _ _ fun _ => rfl, h.database_eq]

/-- **A batch does not change who sees what.** -/
theorem canSee_refresh (h : Ran now db ops done) (user : UserId) (target : Target) :
    (refresh done.touched done.database).canSee user target = db.canSee user target := by
  have husers : done.database.userRow? user = db.userRow? user := by
    rw [h.database_eq]
    rfl
  rw [Database.canSee, Database.canSee, Database.user?, Database.user?, userRow?_refresh, husers]
  cases db.userRow? user with
  | none => rfl
  | some row =>
    have hadmin : (UserRow.read (if isNamed done.touched row.id then recount done.database row
        else row)).admin = row.read.admin := by
      split <;> rfl
    simp only [Option.map_some, hadmin]
    rw [h.database_eq]
    rfl

end Ledger.Ran

end TodoLedger
