import TodoLedger.Database.Accounts
import TodoLedger.Proofs.Ledger.Batch

/-!
# Well-formed databases

* `WellFormed db`: ids, handles, names and memberships are distinct; members and to-dos refer to
  users and projects that exist; and each to-do is the one that was put in, either pending without
  a resolution or done with one.
* **Every way to write keeps a database well-formed**: a batch (`WellFormed.apply`), a new user
  (`WellFormed.createUser`), a new project (`WellFormed.createProject`) and a membership
  (`WellFormed.setMember`).
-/

namespace TodoLedger

open Ledger (Op Effect Change Run Stepped Ran admits)

variable {db db' : Database}

/-! ### References -/

/-- No user and no project is lost. -/
structure Database.Extends (db db' : Database) : Prop where
  users : db.users.map (·.id) ⊆ db'.users.map (·.id)
  projects : db.projects.map (·.id) ⊆ db'.projects.map (·.id)

namespace Database.Extends

/-- A database with the same users and projects has lost none. -/
theorem of_eq (husers : db'.users.map (·.id) = db.users.map (·.id))
    (hprojects : db'.projects = db.projects) : db.Extends db' := by
  constructor
  · rw [husers]
    exact List.Subset.refl _
  · rw [hprojects]
    exact List.Subset.refl _

/-- New users do no harm to those who are there. -/
theorem append_users (db : Database) (rows : List UserRow) :
    db.Extends { db with users := db.users ++ rows } := by
  constructor
  · rw [List.map_append]
    exact List.subset_append_left _ _
  · exact List.Subset.refl _

/-- New projects do no harm to those that are there. -/
theorem append_projects (db : Database) (rows : List ProjectRow) :
    db.Extends { db with projects := db.projects ++ rows } := by
  constructor
  · exact List.Subset.refl _
  · rw [List.map_append]
    exact List.subset_append_left _ _

end Database.Extends

/-- A new to-do is admitted when its recipient, author and project exist. -/
theorem admits_iff {todo : NewTodo} :
    admits db todo = true ↔
      rowId todo.userId ∈ db.users.map (·.id) ∧ rowId todo.authorId ∈ db.users.map (·.id) ∧
        rowId todo.projectId ∈ db.projects.map (·.id) := by
  simp [admits, and_assoc]

/-- What is admitted stays admitted when no user and no project is lost. -/
theorem admits_of_extends (h : db.Extends db') {todo : NewTodo} (hadmits : admits db todo = true) :
    admits db' todo = true := by
  obtain ⟨huser, hauthor, hproject⟩ := admits_iff.1 hadmits
  exact admits_iff.2 ⟨h.users huser, h.users hauthor, h.projects hproject⟩

/-- A key with which a row is found is the key of a row. -/
theorem mem_map_of_isSome_find? {α : Type} {key : α → Int64} {id : Int64} {rows : List α}
    (h : (rows.find? (key · = id)).isSome = true) : id ∈ rows.map key := by
  obtain ⟨row, hrow⟩ := Option.isSome_iff_exists.1 h
  have hid := List.find?_some hrow
  rw [decide_eq_true_eq] at hid
  exact List.mem_map.2 ⟨row, List.mem_of_find?_eq_some hrow, hid⟩

/-! ### Accounts -/

namespace Database

/-- A new user changes no table but that of the users. -/
theorem eq_of_createUser {handle : String} {admin : Bool} {id : UserId}
    (h : db.createUser handle admin = .ok (db', id)) : db' = { db with users := db'.users } := by
  rw [createUser] at h
  split at h
  · cases h
  · split at h <;> cases h
    rfl

/-- A new project changes no table but that of the projects. -/
theorem eq_of_createProject {name : String} {visibility : Visibility} {repositoryPrivate : Bool}
    {id : ProjectId} (h : db.createProject name visibility repositoryPrivate = .ok (db', id)) :
    db' = { db with projects := db'.projects } := by
  rw [createProject] at h
  split at h
  · cases h
  · split at h <;> cases h
    rfl

/-- A membership changes no table but that of the members. -/
theorem eq_of_setMember {project : ProjectId} {user : UserId} {level : AccessLevel}
    (h : db.setMember project user level = .ok db') : db' = { db with members := db'.members } := by
  rw [setMember] at h
  split at h
  · cases h
    rfl
  · split at h <;> cases h
    rfl

end Database

/-! ### Rows -/

/-- A row of a project whose choices are readable. -/
structure ProjectRow.Valid (row : ProjectRow) : Prop where
  visibility : ∃ visibility : Visibility, row.visibility = visibility.name
  repositoryPrivate : ∃ flag, row.repositoryPrivate = .integer flag

/-- A row of a member whose project and user exist. -/
structure MemberRow.Valid (db : Database) (row : MemberRow) : Prop where
  project : ∃ id ∈ db.projects.map (·.id), row.projectId = .integer id
  user : ∃ id ∈ db.users.map (·.id), row.userId = .integer id
  level : ∃ level : AccessLevel, row.accessLevel = .integer level.code

/-- A to-do is pending without a resolution, or done with one. -/
def TodoRow.Lives (row : TodoRow) : Prop :=
  row.state = TodoState.pending.name ∧ row.resolution = none ∨
    row.state = TodoState.done.name ∧
      ∃ resolution : Resolution, row.resolution = some resolution.name

/-- A row of a to-do that was put in when its recipient, author and project existed. -/
structure TodoRow.Valid (db : Database) (row : TodoRow) : Prop where
  born : ∃ created todo, admits db todo = true ∧
    row.origin = (TodoRow.ofNew row.id created todo).origin
  lives : row.Lives

/-- What becomes of a row in an op is pending without a resolution or done with one. -/
theorem lives_of_revise {now : Int64} {op : Op} {row row' : TodoRow} (hlives : row.Lives)
    (h : op.revise now row = some row') : row'.Lives := by
  rw [Op.revise] at h
  split at h
  · cases op with
    | upsert =>
      cases h
      exact hlives
    | resolveForTarget =>
      cases h
      exact .inr ⟨rfl, .systemDone, rfl⟩
    | resolveCollection _ _ resolution | resolveAllForUser _ resolution =>
      cases h
      exact .inr ⟨rfl, resolution, rfl⟩
    | restoreCollection =>
      cases h
      exact .inl ⟨rfl, rfl⟩
    | purgeTarget => cases h
  · cases h
    exact hlives

/-- A member stays valid when no user and no project is lost. -/
theorem MemberRow.Valid.extends (h : db.Extends db') {row : MemberRow} (hrow : row.Valid db) :
    row.Valid db' := by
  obtain ⟨project, hproject, hprojectId⟩ := hrow.project
  obtain ⟨user, huser, huserId⟩ := hrow.user
  exact ⟨⟨project, h.projects hproject, hprojectId⟩, ⟨user, h.users huser, huserId⟩, hrow.level⟩

/-- A to-do stays valid when no user and no project is lost. -/
theorem TodoRow.Valid.extends (h : db.Extends db') {row : TodoRow} (hrow : row.Valid db) :
    row.Valid db' := by
  obtain ⟨created, todo, hadmits, horigin⟩ := hrow.born
  exact ⟨⟨created, todo, admits_of_extends h hadmits, horigin⟩, hrow.lives⟩

/-- The recipient of a valid to-do exists. -/
theorem TodoRow.Valid.exists_recipient {row : TodoRow} (h : row.Valid db) :
    ∃ id ∈ db.users.map (·.id), row.userId = .integer id := by
  obtain ⟨created, todo, hadmits, horigin⟩ := h.born
  exact ⟨rowId todo.userId, (admits_iff.1 hadmits).1, TodoRow.userId_eq_of_origin_eq horigin⟩

/-! ### Tables -/

/-- Keys are distinct, and rows refer to rows that exist. -/
structure WellFormed (db : Database) : Prop where
  users : Keyed (db.users.map (·.id))
  handles : (db.users.map (·.handle)).Nodup
  projects : Keyed (db.projects.map (·.id))
  names : (db.projects.map (·.name)).Nodup
  projectRows : ∀ row ∈ db.projects, row.Valid
  memberships : (db.members.map fun row => (row.projectId, row.userId)).Nodup
  memberRows : ∀ row ∈ db.members, row.Valid db
  todos : Keyed (db.todos.map (·.id))
  todoRows : ∀ row ∈ db.todos, row.Valid db

namespace WellFormed

/-- The database without rows is well-formed. -/
theorem empty : WellFormed .empty where
  users := .nil
  handles := List.nodup_nil
  projects := .nil
  names := List.nodup_nil
  projectRows _ h := absurd h List.not_mem_nil
  memberships := List.nodup_nil
  memberRows _ h := absurd h List.not_mem_nil
  todos := .nil
  todoRows _ h := absurd h List.not_mem_nil

/-- Members stay valid when no user and no project is lost. -/
theorem memberRows_of_extends (hdb : WellFormed db) (h : db.Extends db') :
    ∀ row ∈ db.members, row.Valid db' := fun row hrow => (hdb.memberRows row hrow).extends h

/-- To-dos stay valid when no user and no project is lost. -/
theorem todoRows_of_extends (hdb : WellFormed db) (h : db.Extends db') :
    ∀ row ∈ db.todos, row.Valid db' := fun row hrow => (hdb.todoRows row hrow).extends h

/-! ### Batches -/

/-- A step keeps a database well-formed. -/
theorem step {now : Int64} {op : Op} {change : Change} (hdb : WellFormed db)
    (h : Stepped now db op change) : WellFormed change.database := by
  have htodos : Keyed (change.database.todos.map (·.id)) := by
    cases h with
    | blocked => exact hdb.todos
    | inserted _ hid _ =>
      rw [List.map_append]
      exact hdb.todos.append_free hid
    | resolved | restored | purged => exact hdb.todos.sublist (Ledger.map_id_revise_sublist now _ _)
  have hrows : ∀ row ∈ change.database.todos, row.Valid db := by
    intro row hrow
    rcases h.row_cases hrow with ⟨before, hbefore, hrevise⟩ | ⟨todo, id, _, _, hadmits, rfl⟩
    · obtain ⟨⟨created, todo, hadmits, horigin⟩, hlives⟩ := hdb.todoRows before hbefore
      have hkept := Op.revise_origin hrevise
      refine ⟨⟨created, todo, hadmits, ?_⟩, lives_of_revise hlives hrevise⟩
      rw [hkept, horigin, TodoRow.id_eq_of_origin_eq hkept]
    · exact ⟨⟨now, todo, hadmits, rfl⟩, .inl ⟨rfl, rfl⟩⟩
  rw [h.database_eq]
  have hextends : db.Extends { db with todos := change.database.todos } := .of_eq rfl rfl
  exact { hdb with
    memberRows := hdb.memberRows_of_extends hextends
    todos := htodos
    todoRows := fun row hrow => (hrows row hrow).extends hextends }

/-- Ops that run keep a database well-formed. -/
theorem run {now : Int64} {ops : List Op} {done : Run} (hdb : WellFormed db)
    (h : Ran now db ops done) : WellFormed done.database := by
  induction h with
  | nil => exact hdb
  | cons hstep _ ih => exact ih (hdb.step hstep)

/-- Counting again keeps a database well-formed. -/
theorem refresh (users : List UserId) (hdb : WellFormed db) :
    WellFormed (Ledger.refresh users db) := by
  have hextends : db.Extends (Ledger.refresh users db) :=
    .of_eq (Ledger.refresh_map_id users db) rfl
  constructor
  · rw [Ledger.refresh_map_id]
    exact hdb.users
  · rw [Ledger.refresh_map_handle]
    exact hdb.handles
  · exact hdb.projects
  · exact hdb.names
  · exact hdb.projectRows
  · exact hdb.memberships
  · exact hdb.memberRows_of_extends hextends
  · exact hdb.todos
  · exact hdb.todoRows_of_extends hextends

/-- **A batch keeps a database well-formed.** -/
theorem apply {now : Int64} {ops : List Op} {effects : List Effect} (hdb : WellFormed db)
    (h : Ledger.apply now ops db = .ok (db', effects)) : WellFormed db' := by
  obtain ⟨done, hran, rfl, _⟩ := Ledger.exists_ran_of_apply h
  exact (hdb.run hran).refresh done.touched

/-! ### Accounts -/

/-- **A new user keeps a database well-formed.** -/
theorem createUser {handle : String} {admin : Bool} {id : UserId} (hdb : WellFormed db)
    (h : db.createUser handle admin = .ok (db', id)) : WellFormed db' := by
  rw [Database.createUser] at h
  split at h
  · cases h
  · next free hfree =>
    split at h
    · cases h
    · next hhandle =>
      cases h
      have hextends := Database.Extends.append_users db [⟨free, handle, admin, 0, 0⟩]
      refine { hdb with users := ?_, handles := ?_, memberRows := ?_, todoRows := ?_ }
      · rw [List.map_append]
        exact hdb.users.append_free hfree
      · rw [List.map_append, List.map_cons, List.map_nil, ← List.concat_eq_append,
          List.nodup_concat]
        exact ⟨by simpa using hhandle, hdb.handles⟩
      · exact hdb.memberRows_of_extends hextends
      · exact hdb.todoRows_of_extends hextends

/-- **A new project keeps a database well-formed.** -/
theorem createProject {name : String} {visibility : Visibility} {repositoryPrivate : Bool}
    {id : ProjectId} (hdb : WellFormed db)
    (h : db.createProject name visibility repositoryPrivate = .ok (db', id)) : WellFormed db' := by
  rw [Database.createProject] at h
  split at h
  · cases h
  · next free hfree =>
    split at h
    · cases h
    · next hname =>
      cases h
      have hextends := Database.Extends.append_projects db
        [⟨free, name, visibility.name, .integer (if repositoryPrivate then 1 else 0)⟩]
      refine { hdb with
        projects := ?_, names := ?_, projectRows := ?_, memberRows := ?_, todoRows := ?_ }
      · rw [List.map_append]
        exact hdb.projects.append_free hfree
      · rw [List.map_append, List.map_cons, List.map_nil, ← List.concat_eq_append,
          List.nodup_concat]
        exact ⟨by simpa using hname, hdb.names⟩
      · intro row hrow
        rcases List.mem_append.1 hrow with hrow | hrow
        · exact hdb.projectRows row hrow
        · rw [List.mem_singleton] at hrow
          subst hrow
          exact ⟨⟨visibility, rfl⟩, ⟨_, rfl⟩⟩
      · exact hdb.memberRows_of_extends hextends
      · exact hdb.todoRows_of_extends hextends

/-- **A membership keeps a database well-formed.** -/
theorem setMember {project : ProjectId} {user : UserId} {level : AccessLevel} (hdb : WellFormed db)
    (h : db.setMember project user level = .ok db') : WellFormed db' := by
  have hextends (members : List MemberRow) : db.Extends { db with members } := .of_eq rfl rfl
  rw [Database.setMember] at h
  split at h
  · cases h
    refine { hdb with memberships := ?_, memberRows := ?_, todoRows := ?_ }
    · have hkeys : ((fun row : MemberRow => (row.projectId, row.userId)) ∘ fun row =>
          if Database.isMembership project user row then
            { row with accessLevel := .integer level.code } else row) =
          fun row => (row.projectId, row.userId) := by
        funext row
        rw [Function.comp_apply]
        split <;> rfl
      rw [List.map_map, hkeys]
      exact hdb.memberships
    · intro row hrow
      obtain ⟨before, hbefore, rfl⟩ := List.mem_map.1 hrow
      have hvalid := hdb.memberRows before hbefore
      refine MemberRow.Valid.extends (hextends _) ?_
      split
      · exact { hvalid with level := ⟨level, rfl⟩ }
      · exact hvalid
    · exact hdb.todoRows_of_extends (hextends _)
  · next hnew =>
    split at h
    · next hexist =>
      cases h
      rw [Bool.and_eq_true] at hexist
      refine { hdb with memberships := ?_, memberRows := ?_, todoRows := ?_ }
      · rw [List.map_append, List.map_cons, List.map_nil, ← List.concat_eq_append,
          List.nodup_concat]
        refine ⟨fun hmem => hnew ?_, hdb.memberships⟩
        obtain ⟨row, hrow, hkey⟩ := List.mem_map.1 hmem
        rw [Prod.mk.injEq] at hkey
        refine List.any_eq_true.2 ⟨row, hrow, ?_⟩
        simp [Database.isMembership, hkey]
      · intro row hrow
        rcases List.mem_append.1 hrow with hrow | hrow
        · exact hdb.memberRows_of_extends (hextends _) row hrow
        · rw [List.mem_singleton] at hrow
          subst hrow
          exact ⟨⟨rowId project, mem_map_of_isSome_find? hexist.2, rfl⟩,
            ⟨rowId user, mem_map_of_isSome_find? hexist.1, rfl⟩, ⟨level, rfl⟩⟩
      · exact hdb.todoRows_of_extends (hextends _)
    · cases h

end WellFormed

end TodoLedger
