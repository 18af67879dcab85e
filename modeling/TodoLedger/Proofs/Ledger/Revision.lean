import TodoLedger.Ledger.Step
import TodoLedger.Metrics
import TodoLedger.Proofs.RowIds

/-!
# What a step does to the rows of the ledger

* `Op.affects` tells which rows an op changes and `Op.revise` what becomes of a row: it stays, it
  changes its state, or it is deleted.
* `TodoRow.origin` is what a row keeps for ever: everything but its state, its resolution and the
  time of its last change (`Op.revise_origin`).
* **A step that succeeds is one of five things** (`stepped_of_step`): it finds a new to-do blocked,
  it puts in a new row behind the old ones, or it revises all rows, by resolving, restoring or
  deleting those that it affects. Then the touched users are the owners of the affected rows.
* An op that affects no row succeeds and does nothing, if its check lets it pass (`step_eq_idle`).
-/

namespace TodoLedger

/-- Two computations in a row succeed if the first does, and the second with what it gives. -/
theorem bind_eq_ok_iff {ε α β : Type} {x : Except ε α} {f : α → Except ε β} {b : β} :
    x >>= f = .ok b ↔ ∃ a, x = .ok a ∧ f a = .ok b := by
  cases x with
  | error e =>
    constructor
    · rintro ⟨⟩
    · rintro ⟨a, ⟨⟩, _⟩
  | ok a =>
    constructor
    · intro h
      exact ⟨a, rfl, h⟩
    · rintro ⟨_, ⟨⟩, h⟩
      exact h

/-! ### States of a row -/

/-- What is pending is not done. -/
theorem isDone_eq_false_of_isPending {row : TodoRow} (h : row.isPending = true) :
    row.isDone = false := by
  rw [TodoRow.isPending, decide_eq_true_eq] at h
  rw [TodoRow.isDone, h]
  rfl

/-- What is done is not pending. -/
theorem isPending_eq_false_of_isDone {row : TodoRow} (h : row.isDone = true) :
    row.isPending = false := by
  rw [TodoRow.isDone, decide_eq_true_eq] at h
  rw [TodoRow.isPending, h]
  rfl

/-! ### Whose a row is -/

namespace TodoRow

/-- A row belongs to one user only. -/
theorem eq_of_belongsTo {row : TodoRow} {user other : UserId} (h : row.belongsTo user = true)
    (hother : row.belongsTo other = true) : user = other :=
  Cell.ofId_inj.1 ((of_decide_eq_true h).symm.trans (of_decide_eq_true hother))

/-- The row of a new to-do belongs to its recipient. -/
theorem belongsTo_ofNew {id now : Int64} {todo : NewTodo} {user : UserId} :
    (ofNew id now todo).belongsTo user = true ↔ todo.userId = user :=
  decide_eq_true_iff.trans Cell.ofId_inj

end TodoRow

/-! ### What stays of a row -/

/-- What a row keeps for ever: all but its state, its resolution and the time of its last change. -/
def TodoRow.origin (row : TodoRow) : TodoRow :=
  { row with state := "", resolution := none, updatedAt := .integer 0 }

namespace TodoRow

variable {a b : TodoRow}

/-- Rows of one origin have the same id. -/
theorem id_eq_of_origin_eq (h : a.origin = b.origin) : a.id = b.id := (congrArg TodoRow.id h :)

/-- Rows of one origin belong to the same user. -/
theorem userId_eq_of_origin_eq (h : a.origin = b.origin) : a.userId = b.userId :=
  (congrArg TodoRow.userId h :)

/-- Rows of one origin belong to the same users. -/
theorem belongsTo_eq_of_origin_eq (h : a.origin = b.origin) : a.belongsTo = b.belongsTo := by
  funext user
  rw [belongsTo, belongsTo, userId_eq_of_origin_eq h]

/-- Rows of one origin are on the same target. -/
theorem points_eq_of_origin_eq (h : a.origin = b.origin) : a.points = b.points := by
  have hkind : a.targetKind = b.targetKind := (congrArg TodoRow.targetKind h :)
  have hid : a.targetId = b.targetId := (congrArg TodoRow.targetId h :)
  have hcommit : a.commitId = b.commitId := (congrArg TodoRow.commitId h :)
  funext target
  rw [points, points, hkind, hid, hcommit]

/-- **A row is on one target only.** -/
theorem eq_of_points {row : TodoRow} {target other : TargetRef} (h : row.points target = true)
    (hother : row.points other = true) : target = other := by
  rw [points, Bool.and_eq_true, Bool.and_eq_true] at h hother
  obtain ⟨⟨hkind, hid⟩, hcommit⟩ := h
  obtain ⟨⟨hkind', hid'⟩, hcommit'⟩ := hother
  have hsameKind : target.kind = other.kind :=
    TargetKind.name_injective ((of_decide_eq_true hkind).symm.trans (of_decide_eq_true hkind'))
  have hsameId : target.targetId = other.targetId :=
    Option.map_injective (fun _ _ => Cell.ofId_inj.1)
      ((of_decide_eq_true hid).symm.trans (of_decide_eq_true hid'))
  have hsameCommit : target.commitId = other.commitId :=
    (of_decide_eq_true hcommit).symm.trans (of_decide_eq_true hcommit')
  cases target
  cases other
  congr

end TodoRow

namespace Ledger

variable {now : Int64} {db : Database} {op : Op} {change : Change}

/-! ### Revisions -/

/-- True of the rows that the op changes. -/
def Op.affects : Op → TodoRow → Bool
  | .upsert _, _ => false
  | .resolveForTarget target user action, row =>
    row.isPending && (row.points target && user.all (row.belongsTo ·) &&
      action.all (row.action = .integer ·.code))
  | .resolveCollection ids _ _, row => row.isPending && isNamed ids row.id
  | .restoreCollection ids _, row => row.isDone && isNamed ids row.id
  | .resolveAllForUser user _, row => row.isPending && row.belongsTo user
  | .purgeTarget target, row => row.points target

/-- What the op makes of a row that it affects. -/
def Op.rewrite (now : Int64) : Op → TodoRow → Option TodoRow
  | .upsert _, row => some row
  | .resolveForTarget .., row => some (row.resolved now .systemDone)
  | .resolveCollection _ _ resolution, row | .resolveAllForUser _ resolution, row =>
    some (row.resolved now resolution)
  | .restoreCollection .., row => some (row.restored now)
  | .purgeTarget _, _ => none

/-- Only a purge deletes rows. -/
theorem Op.eq_of_rewrite_none {row : TodoRow} (h : op.rewrite now row = none) :
    ∃ target, op = .purgeTarget target := by
  cases op with
  | purgeTarget target => exact ⟨target, rfl⟩
  | upsert | resolveForTarget | resolveCollection | resolveAllForUser | restoreCollection => cases h

/-- What becomes of a row in an op. -/
def Op.revise (now : Int64) (op : Op) (row : TodoRow) : Option TodoRow :=
  if op.affects row then op.rewrite now row else some row

/-- True of the ops that put in no to-do. -/
def Op.isRevision : Op → Bool
  | .upsert _ => false
  | .resolveForTarget .. | .resolveCollection .. | .restoreCollection .. | .resolveAllForUser ..
  | .purgeTarget _ => true

/-- The database with all rows revised. -/
def revised (now : Int64) (op : Op) (db : Database) : Database :=
  { db with todos := db.todos.filterMap (op.revise now) }

/-- A row that the op does not affect stays. -/
theorem Op.revise_of_not_affects {row : TodoRow} (h : op.affects row = false) :
    op.revise now row = some row := by
  rw [Op.revise, h]
  rfl

section Rewriting

variable {f : TodoRow → TodoRow} (h : ∀ row, op.rewrite now row = some (f row))

include h

/-- An op that deletes no row rewrites a row if it affects it. -/
theorem Op.revise_of_rewrite (row : TodoRow) :
    op.revise now row = some (if op.affects row then f row else row) := by
  rw [Op.revise, h]
  split <;> rfl

/-- An op that deletes no row rewrites the rows that it affects. -/
theorem revised_of_rewrite (db : Database) : revised now op db =
    { db with todos := db.todos.map fun row => if op.affects row then f row else row } := by
  rw [revised, funext (Op.revise_of_rewrite h), List.filterMap_eq_map']

end Rewriting

/-- An op that resolves makes done what it affects. -/
theorem Op.rewrite_of_resolves {resolution : Resolution}
    (h : Metrics.resolutionOf? op = some resolution) (row : TodoRow) :
    op.rewrite now row = some (row.resolved now resolution) := by
  cases op with
  | resolveForTarget | resolveCollection | resolveAllForUser =>
    cases h
    rfl
  | upsert | restoreCollection | purgeTarget => cases h

/-- An op that restores makes pending what it affects. -/
theorem Op.rewrite_restoreCollection (ids : List TodoId) (user : UserId) (row : TodoRow) :
    (Op.restoreCollection ids user).rewrite now row = some (row.restored now) := rfl

/-- An op that resolves affects pending rows only. -/
theorem Op.isPending_of_affects {resolution : Resolution} {row : TodoRow}
    (hop : Metrics.resolutionOf? op = some resolution) (h : op.affects row = true) :
    row.isPending = true := by
  cases op with
  | resolveForTarget | resolveCollection | resolveAllForUser => exact (Bool.and_eq_true_iff.1 h).1
  | upsert | restoreCollection | purgeTarget => cases hop

/-- An op that purges keeps the rows on other targets. -/
theorem Op.revise_purgeTarget (target : TargetRef) (row : TodoRow) :
    (Op.purgeTarget target).revise now row = Option.guard (!·.points target) row := by
  rw [Op.revise, Option.guard]
  cases h : row.points target <;> simp [Op.affects, Op.rewrite, h]

/-- What becomes of a row has the row's origin. -/
theorem Op.revise_origin {row row' : TodoRow} (h : op.revise now row = some row') :
    row'.origin = row.origin := by
  rw [Op.revise] at h
  split at h
  · cases op with
    | purgeTarget => cases h
    | upsert | resolveForTarget | resolveCollection | resolveAllForUser | restoreCollection =>
      cases h
      rfl
  · cases h
    rfl

/-- The ids of what becomes of rows are some of the ids of the rows, in the same order. -/
theorem map_id_revise_sublist (now : Int64) (op : Op) (rows : List TodoRow) :
    ((rows.filterMap (op.revise now)).map (·.id)).Sublist (rows.map (·.id)) := by
  induction rows with
  | nil => exact List.Sublist.slnil
  | cons row rest ih =>
    rw [List.filterMap_cons, List.map_cons]
    cases h : op.revise now row with
    | none => exact ih.cons row.id
    | some row' =>
      rw [List.map_cons, TodoRow.id_eq_of_origin_eq (Op.revise_origin h)]
      exact ih.cons_cons row.id

/-! ### Owners -/

/-- The ids in cells are readable if the cells were written with ids. -/
theorem mapM_id?_eq_ok_iff {rows : List TodoRow} {users : List UserId} :
    rows.mapM (·.userId.id?) = .ok users ↔ rows.map (·.userId) = users.map .ofId := by
  induction rows generalizing users with
  | nil =>
    rw [List.mapM_nil, List.map_nil, eq_comm (a := []), List.map_eq_nil_iff]
    constructor
    · rintro ⟨⟩
      rfl
    · rintro rfl
      rfl
  | cons row rest ih =>
    rw [List.mapM_cons, List.map_cons]
    constructor
    · intro h
      obtain ⟨user, huser, h⟩ := bind_eq_ok_iff.1 h
      obtain ⟨others, hothers, h⟩ := bind_eq_ok_iff.1 h
      cases h
      rw [List.map_cons, Cell.id?_eq_ok_iff.1 huser, ih.1 hothers]
    · intro h
      cases users with
      | nil => cases h
      | cons user others =>
        rw [List.map_cons, List.cons.injEq] at h
        rw [Cell.id?_eq_ok_iff.2 h.1, ih.2 h.2]
        rfl

/-- The owners of rows are readable if they are ids of users. -/
theorem ownersOf_eq_ok_iff {rows : List TodoRow} {users : List UserId} :
    ownersOf rows = .ok users ↔ rows.map (·.userId) = users.map .ofId := by
  rw [ownersOf, ← mapM_id?_eq_ok_iff]
  cases rows.mapM (·.userId.id?) <;> simp

/-- What an op asks of a database before it changes anything: the to-dos with given ids exist and
belong to the user. -/
def Op.Permitted (db : Database) : Op → Prop
  | .resolveCollection ids user _ | .restoreCollection ids user =>
    ∀ id ∈ ids, refusal? db user id = none
  | _ => True

/-- Nothing is refused if every to-do exists and belongs to the user. -/
theorem permitted_of_checkOwnership {user : UserId} {ids : List TodoId}
    (h : checkOwnership db user ids = .ok ()) : ∀ id ∈ ids, refusal? db user id = none := by
  intro id hid
  obtain ⟨users, _, h⟩ := bind_eq_ok_iff.1 h
  cases hrefused : (ascending ids).findSome? (refusal? db user) with
  | some error =>
    rw [hrefused] at h
    cases h
  | none => exact List.findSome?_eq_none_iff.1 hrefused id (mem_ascending.2 hid)

/-- A named row belongs to the user who may change all to-dos with the given ids. -/
theorem belongsTo_of_permitted {user : UserId} {ids : List TodoId} {row : TodoRow}
    (hkeyed : Keyed (db.todos.map (·.id))) (h : ∀ id ∈ ids, refusal? db user id = none)
    (hrow : row ∈ db.todos) (hnamed : isNamed ids row.id = true) : row.belongsTo user = true := by
  obtain ⟨hpositive, hid⟩ := isNamed_iff.1 hnamed
  have hrefusal := h _ hid
  rw [refusal?] at hrefusal
  split at hrefusal
  · cases hrefusal
  · next found hfound =>
    have hfoundId := List.find?_some hfound
    rw [isNamed_iff, List.mem_singleton] at hfoundId
    have hsame : found.id = row.id := by
      rw [← rowId_idOfRow found.id, hfoundId.2, rowId_idOfRow]
    rw [← hkeyed.eq_of_id_eq (List.mem_of_find?_eq_some hfound) hrow hsame]
    by_contra hother
    rw [if_neg hother] at hrefusal
    cases hrefusal

/-! ### Steps -/

/-- What a step that succeeds is. -/
inductive Stepped (now : Int64) (db : Database) : Op → Change → Prop
  /-- A row stands in the way of the new to-do. -/
  | blocked {todo : NewTodo} (hblocked : db.todos.any (blocks · todo) = true) :
    Stepped now db (.upsert todo) ⟨db, .created none, []⟩
  /-- The new to-do gets a row. -/
  | inserted {todo : NewTodo} {id : Int64} (hfree : ∀ row ∈ db.todos, blocks row todo = false)
    (hid : freeRowId? (db.todos.map (·.id)) = some id) (hadmits : admits db todo = true) :
    Stepped now db (.upsert todo)
      ⟨{ db with todos := db.todos ++ [TodoRow.ofNew id now todo] }, .created (some (idOfRow id)),
        [todo.userId]⟩
  /-- The affected rows become done. -/
  | resolved {op : Op} {resolution : Resolution} {users : List UserId}
    (hop : Metrics.resolutionOf? op = some resolution) (hpermitted : op.Permitted db)
    (howners : (db.todos.filter op.affects).map (·.userId) = users.map .ofId) :
    Stepped now db op ⟨revised now op db, .resolved (idsOf (db.todos.filter op.affects)), users⟩
  /-- The affected rows become pending. -/
  | restored {ids : List TodoId} {user : UserId} {users : List UserId}
    (hpermitted : (Op.restoreCollection ids user).Permitted db)
    (howners : (db.todos.filter (Op.restoreCollection ids user).affects).map (·.userId) =
      users.map .ofId) :
    Stepped now db (.restoreCollection ids user)
      ⟨revised now (.restoreCollection ids user) db,
        .restored (idsOf (db.todos.filter (Op.restoreCollection ids user).affects)), users⟩
  /-- The affected rows are deleted. -/
  | purged {target : TargetRef} {users pending : List UserId}
    (howners : (db.todos.filter (Op.purgeTarget target).affects).map (·.userId) = users.map .ofId)
    (hpending : pendingOwners (db.todos.filter (Op.purgeTarget target).affects) = .ok pending) :
    Stepped now db (.purgeTarget target)
      ⟨revised now (.purgeTarget target) db, .purged pending, users⟩

/-- A new to-do is blocked or gets a row. -/
theorem stepped_of_upsert {todo : NewTodo} (h : upsert now todo db = .ok change) :
    Stepped now db (.upsert todo) change := by
  rw [upsert] at h
  split at h
  · next hblocked =>
    cases h
    exact .blocked hblocked
  · next hfree =>
    split at h
    · cases h
    · next id hid =>
      split at h
      · next hadmits =>
        cases h
        exact .inserted (by simpa using hfree) hid hadmits
      · cases h

/-- Pending rows that are selected become done. -/
theorem stepped_of_resolveWhere {resolution : Resolution} {selected : TodoRow → Bool}
    (hop : Metrics.resolutionOf? op = some resolution) (hpermitted : op.Permitted db)
    (hselected : op.affects = fun row => row.isPending && selected row)
    (h : resolveWhere now resolution selected db = .ok change) : Stepped now db op change := by
  obtain ⟨users, howners, h⟩ := bind_eq_ok_iff.1 h
  cases h
  rw [← hselected] at howners
  have hstep : Stepped now db op _ := .resolved hop hpermitted (ownersOf_eq_ok_iff.1 howners)
  rw [revised_of_rewrite (Op.rewrite_of_resolves hop), hselected] at hstep
  exact hstep

/-- Done rows that are selected become pending. -/
theorem stepped_of_restoreWhere {ids : List TodoId} {user : UserId}
    (hpermitted : (Op.restoreCollection ids user).Permitted db)
    (h : restoreWhere now (fun row => isNamed ids row.id) db = .ok change) :
    Stepped now db (.restoreCollection ids user) change := by
  obtain ⟨users, howners, h⟩ := bind_eq_ok_iff.1 h
  cases h
  have hstep : Stepped now db _ _ := .restored hpermitted (ownersOf_eq_ok_iff.1 howners)
  rw [revised_of_rewrite (Op.rewrite_restoreCollection ids user)] at hstep
  exact hstep

/-- The rows on a target are deleted. -/
theorem stepped_of_purge {target : TargetRef} (h : purge target db = .ok change) :
    Stepped now db (.purgeTarget target) change := by
  obtain ⟨users, howners, h⟩ := bind_eq_ok_iff.1 h
  obtain ⟨pending, hpending, h⟩ := bind_eq_ok_iff.1 h
  cases h
  have hstep : Stepped now db _ _ := .purged (ownersOf_eq_ok_iff.1 howners) hpending
  rw [revised, funext (Op.revise_purgeTarget target), List.filterMap_eq_filter] at hstep
  exact hstep

/-- **What a step that succeeds is.** -/
theorem stepped_of_step (h : step now op db = .ok change) : Stepped now db op change := by
  cases op with
  | upsert todo => exact stepped_of_upsert h
  | resolveForTarget target user action => exact stepped_of_resolveWhere rfl trivial rfl h
  | resolveCollection ids user resolution =>
    obtain ⟨⟨⟩, hpermitted, h⟩ := bind_eq_ok_iff.1 h
    exact stepped_of_resolveWhere rfl (permitted_of_checkOwnership hpermitted) rfl h
  | restoreCollection ids user =>
    obtain ⟨⟨⟩, hpermitted, h⟩ := bind_eq_ok_iff.1 h
    exact stepped_of_restoreWhere (permitted_of_checkOwnership hpermitted) h
  | resolveAllForUser user resolution => exact stepped_of_resolveWhere rfl trivial rfl h
  | purgeTarget target => exact stepped_of_purge h

/-! ### What a step leaves alone -/

/-- The owners of rows that an op affects are among the users that it touches. -/
theorem mem_of_affects {users : List UserId} {user : UserId} {row : TodoRow}
    (howners : (db.todos.filter op.affects).map (·.userId) = users.map .ofId)
    (hrow : row ∈ db.todos) (haffects : op.affects row = true)
    (hbelongs : row.belongsTo user = true) : user ∈ users := by
  have howner : row.userId ∈ users.map Cell.ofId := by
    rw [← howners]
    exact List.mem_map_of_mem (List.mem_filter.2 ⟨hrow, haffects⟩)
  obtain ⟨owner, hmem, howner⟩ := List.mem_map.1 howner
  rw [TodoRow.belongsTo, decide_eq_true_eq, ← howner, Cell.ofId_inj] at hbelongs
  exact hbelongs ▸ hmem

/-- Revisions leave alone the rows of a user whose rows are not affected. -/
theorem filter_revise {user : UserId} {rows : List TodoRow}
    (h : ∀ row ∈ rows, row.belongsTo user = true → op.affects row = false) :
    (rows.filterMap (op.revise now)).filter (·.belongsTo user) =
      rows.filter (·.belongsTo user) := by
  induction rows with
  | nil => rfl
  | cons row rest ih =>
    have hrest := ih fun row hrow => h row (List.mem_cons_of_mem _ hrow)
    rw [List.filterMap_cons, List.filter_cons]
    by_cases hbelongs : row.belongsTo user = true
    · rw [Op.revise_of_not_affects (h row List.mem_cons_self hbelongs), if_pos hbelongs, ← hrest]
      exact List.filter_cons_of_pos hbelongs
    · rw [if_neg hbelongs, ← hrest]
      cases hrevise : op.revise now row with
      | none => rfl
      | some row' =>
        rw [← TodoRow.belongsTo_eq_of_origin_eq (Op.revise_origin hrevise)] at hbelongs
        exact List.filter_cons_of_neg hbelongs

namespace Stepped

/-- A revision that succeeds revises all rows. -/
theorem eq_revised (h : Stepped now db op change) (hop : op.isRevision = true) :
    change.database = revised now op db := by
  cases h with
  | blocked | inserted => cases hop
  | resolved | restored | purged => rfl

/-- A step revises all rows, or it is for a new to-do, and changes none or puts in its row. -/
theorem database_cases (h : Stepped now db op change) :
    (op.isRevision = true ∧ change.database = revised now op db) ∨
      ∃ todo, op = .upsert todo ∧ (change.database = db ∨
        ∃ id, freeRowId? (db.todos.map (·.id)) = some id ∧
          change.database = { db with todos := db.todos ++ [TodoRow.ofNew id now todo] }) := by
  cases h with
  | blocked => exact .inr ⟨_, rfl, .inl rfl⟩
  | @inserted todo id _ hid => exact .inr ⟨todo, rfl, .inr ⟨id, hid, rfl⟩⟩
  | resolved hop =>
    refine .inl ⟨?_, rfl⟩
    cases op with
    | upsert => cases hop
    | _ => rfl
  | restored | purged => exact .inl ⟨rfl, rfl⟩

/-- A step that succeeds was permitted. -/
theorem permitted (h : Stepped now db op change) : op.Permitted db := by
  cases h with
  | blocked | inserted | purged => trivial
  | resolved _ hpermitted | restored hpermitted => exact hpermitted

/-- A revision touches owners of affected rows only. -/
theorem exists_affected_of_touched (h : Stepped now db op change) (hop : op.isRevision = true)
    {user : UserId} (huser : user ∈ change.touched) :
    ∃ row ∈ db.todos, op.affects row = true ∧ row.belongsTo user = true := by
  have howned {users : List UserId} (huser : user ∈ users)
      (howners : (db.todos.filter op.affects).map (·.userId) = users.map .ofId) :
      ∃ row ∈ db.todos, op.affects row = true ∧ row.belongsTo user = true := by
    have hmem := List.mem_map_of_mem (f := Cell.ofId) huser
    rw [← howners] at hmem
    obtain ⟨row, hrow, howner⟩ := List.mem_map.1 hmem
    obtain ⟨hrow, haffects⟩ := List.mem_filter.1 hrow
    exact ⟨row, hrow, haffects, decide_eq_true howner⟩
  cases h with
  | blocked | inserted => cases hop
  | resolved _ _ howners | restored _ howners | purged howners => exact howned huser howners

/-- A step changes no table but that of the to-dos. -/
theorem database_eq (h : Stepped now db op change) :
    change.database = { db with todos := change.database.todos } := by
  cases h <;> rfl

/-- A row after a step is what became of a row before, or the row of the new to-do. -/
theorem row_cases (h : Stepped now db op change) {row : TodoRow}
    (hrow : row ∈ change.database.todos) :
    (∃ before ∈ db.todos, op.revise now before = some row) ∨
      ∃ todo id, op = .upsert todo ∧ freeRowId? (db.todos.map (·.id)) = some id ∧
        admits db todo = true ∧ row = TodoRow.ofNew id now todo := by
  cases h with
  | blocked => exact .inl ⟨row, hrow, rfl⟩
  | @inserted todo id _ hid hadmits =>
    rcases List.mem_append.1 hrow with hrow | hrow
    · exact .inl ⟨row, hrow, rfl⟩
    · exact .inr ⟨todo, id, rfl, hid, hadmits, List.mem_singleton.1 hrow⟩
  | resolved | restored | purged => exact .inl (List.mem_filterMap.1 hrow)

/-- **A step leaves alone all rows of a user that it does not touch.** -/
theorem filter_eq_of_not_touched (h : Stepped now db op change) {user : UserId}
    (huser : user ∉ change.touched) :
    change.database.todos.filter (·.belongsTo user) = db.todos.filter (·.belongsTo user) := by
  have hkept {users : List UserId} (huser : user ∉ users)
      (howners : (db.todos.filter op.affects).map (·.userId) = users.map .ofId) :
      (revised now op db).todos.filter (·.belongsTo user) = db.todos.filter (·.belongsTo user) := by
    refine filter_revise fun row hrow hbelongs => ?_
    by_contra haffects
    exact huser (mem_of_affects howners hrow (by simpa using haffects) hbelongs)
  cases h with
  | blocked => rfl
  | @inserted todo id =>
    have hother : ¬(TodoRow.ofNew id now todo).belongsTo user = true := fun hbelongs =>
      huser (List.mem_singleton.2 (TodoRow.belongsTo_ofNew.1 hbelongs).symm)
    have hnew : [TodoRow.ofNew id now todo].filter (·.belongsTo user) = [] :=
      List.filter_cons_of_neg hother
    rw [List.filter_append, hnew, List.append_nil]
  | resolved _ _ howners | restored _ howners | purged howners => exact hkept huser howners

end Stepped

/-! ### Steps without effect -/

/-- The effect of an op that finds nothing to do. -/
def Op.idle : Op → Effect
  | .upsert _ => .created none
  | .resolveForTarget .. | .resolveCollection .. | .resolveAllForUser .. => .resolved []
  | .restoreCollection .. => .restored []
  | .purgeTarget _ => .purged []

/-- The check that an op makes before it changes anything. -/
def Op.check (db : Database) : Op → Except Error Unit
  | .resolveCollection ids user _ | .restoreCollection ids user => checkOwnership db user ids
  | .upsert _ | .resolveForTarget .. | .resolveAllForUser .. | .purgeTarget _ => .ok ()

/-- The owners of no rows are readable. -/
theorem ownersOf_nil : ownersOf [] = .ok [] := rfl

/-- Rows of which none is to change stay. -/
theorem map_ite_of_none {p : TodoRow → Bool} {f : TodoRow → TodoRow} {rows : List TodoRow}
    (h : ∀ row ∈ rows, p row = false) :
    rows.map (fun row => if p row then f row else row) = rows := by
  have hkept : ∀ row ∈ rows, (if p row then f row else row) = row := by
    intro row hrow
    rw [h row hrow]
    rfl
  rw [List.map_congr_left hkept, List.map_id']

/-- Nothing is resolved where no pending row is selected. -/
theorem resolveWhere_of_none {resolution : Resolution} {selected : TodoRow → Bool}
    (h : ∀ row ∈ db.todos, (row.isPending && selected row) = false) :
    resolveWhere now resolution selected db = .ok ⟨db, .resolved [], []⟩ := by
  have hnone : db.todos.filter (fun row => row.isPending && selected row) = [] := by
    simpa using h
  simp only [resolveWhere, hnone, map_ite_of_none h, ownersOf_nil]
  rfl

/-- Nothing is restored where no done row is selected. -/
theorem restoreWhere_of_none {selected : TodoRow → Bool}
    (h : ∀ row ∈ db.todos, (row.isDone && selected row) = false) :
    restoreWhere now selected db = .ok ⟨db, .restored [], []⟩ := by
  have hnone : db.todos.filter (fun row => row.isDone && selected row) = [] := by
    simpa using h
  simp only [restoreWhere, hnone, map_ite_of_none h, ownersOf_nil]
  rfl

/-- Nothing is deleted where no row is on the target. -/
theorem purge_of_none {target : TargetRef} (h : ∀ row ∈ db.todos, row.points target = false) :
    purge target db = .ok ⟨db, .purged [], []⟩ := by
  have hnone : db.todos.filter (·.points target) = [] := by simpa using h
  have hkept : db.todos.filter (!·.points target) = db.todos := by
    rw [List.filter_eq_self]
    intro row hrow
    rw [h row hrow]
    rfl
  simp only [purge, hnone, hkept, ownersOf_nil]
  rfl

/-- **An op that affects no row, and that its check lets pass, does nothing.** -/
theorem step_eq_idle (hop : op.isRevision = true) (hcheck : op.check db = .ok ())
    (h : ∀ row ∈ db.todos, op.affects row = false) :
    step now op db = .ok ⟨db, op.idle, []⟩ := by
  cases op with
  | upsert => cases hop
  | resolveForTarget | resolveAllForUser => exact resolveWhere_of_none h
  | resolveCollection ids user resolution =>
    change checkOwnership db user ids = .ok () at hcheck
    rw [step, hcheck]
    exact resolveWhere_of_none h
  | restoreCollection ids user =>
    change checkOwnership db user ids = .ok () at hcheck
    rw [step, hcheck]
    exact restoreWhere_of_none h
  | purgeTarget target => exact purge_of_none h

end Ledger

end TodoLedger
