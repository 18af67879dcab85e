import TodoLedger.Proofs.Service.Trace

/-!
# To-dos tell nobody of what they do not see

* `IsNew`: a row that an event put in, which it reports or which stems from no row before.
* `Database.Trusts`: a user may know of a confidential issue as an administrator, as a member from
  reporter up, as its author or as one of its assignees (`trusts_of_canSee`).
* **The recipient of each new to-do was said to see the target of the event** (`created_is_seen`),
  by the oracle that the service asks while it handles the event; if that is the built-in one, no
  to-do on a confidential issue, or on a design of one, goes to a user who is not trusted.
-/

namespace TodoLedger

open Ledger (Op Effect)

/-! ### Trust -/

/-- The issue that a target is, or is a design of. -/
def Target.issue? : Target → Option Issue
  | .issue i => some i
  | .design d => some d.issue
  | .mergeRequest _ | .commit _ | .alert _ | .projectSnippet _ => none

/-- The user may know of the issue even if it is confidential. -/
def Database.Trusts (db : Database) (user : UserId) (issue : Issue) : Prop :=
  (∃ account, db.user? user = some account ∧ account.admin = true) ∨
    (∃ level, db.memberLevel? issue.projectId user = .ok (some level) ∧
      level.atLeast .reporter = true) ∨
    issue.authorId = user ∨ user ∈ issue.assignees

section Policy

variable {viewer : Viewer} {project : Project} {target : Target} {issue : Issue}

/-- A target is as confidential as its issue. -/
theorem isConfidential_of_issue? (h : target.issue? = some issue) :
    target.isConfidential = issue.confidential := by
  cases target <;> cases h <;> rfl

/-- A target is in the project of its issue. -/
theorem projectId_of_issue? (h : target.issue? = some issue) :
    target.projectId = issue.projectId := by
  cases target <;> cases h <;> rfl

/-- A target is read like its issue. -/
theorem canRead_of_issue? (h : target.issue? = some issue) :
    viewer.canRead project target = (viewer.admin || viewer.canReadIssue project issue) := by
  cases target <;> cases h <;> rfl

/-- A reader of what is confidential is a member from reporter up, the author or an assignee. -/
theorem canReadConfidential_iff :
    viewer.canReadConfidential issue = true ↔
      (∃ level, viewer.level = some level ∧ level.atLeast .reporter = true) ∨
        issue.authorId = viewer.userId ∨ viewer.userId ∈ issue.assignees := by
  simp only [Viewer.canReadConfidential, Viewer.hasLevel, Bool.or_eq_true, or_assoc,
    decide_eq_true_eq, List.contains_iff_mem]
  cases viewer.level <;> simp

/-- A reader of a confidential issue, or of a design of one, is an administrator or may read what is
confidential. -/
theorem canReadConfidential_of_canRead (hissue : target.issue? = some issue)
    (hconfidential : target.isConfidential = true) (h : viewer.canRead project target = true) :
    viewer.admin = true ∨ viewer.canReadConfidential issue = true := by
  rw [isConfidential_of_issue? hissue] at hconfidential
  rw [canRead_of_issue? hissue, Bool.or_eq_true, Viewer.canReadIssue, hconfidential, Bool.not_true,
    Bool.false_or, Bool.and_eq_true] at h
  exact h.imp_right And.right

end Policy

/-- Who sees a target is a user, and the policy of its project says so. -/
theorem canRead_of_canSee {db : Database} {user : UserId} {target : Target}
    (h : db.canSee user target = .ok true) :
    ∃ account project level, db.user? user = some account ∧
      db.project? target.projectId = .ok (some project) ∧
      db.memberLevel? target.projectId user = .ok level ∧
      Viewer.canRead ⟨user, account.admin, level⟩ project target = true := by
  rw [Database.canSee] at h
  cases haccount : db.user? user with
  | none =>
    rw [haccount] at h
    cases h
  | some account =>
    rw [haccount] at h
    cases hproject : db.project? target.projectId with
    | error fault =>
      rw [hproject] at h
      cases h
    | ok found =>
      cases found with
      | none =>
        rw [hproject] at h
        cases h
      | some project =>
        rw [hproject] at h
        obtain ⟨_, ⟨⟩, h⟩ := bind_eq_ok_iff.1 h
        obtain ⟨level, hlevel, h⟩ := bind_eq_ok_iff.1 h
        exact ⟨account, project, level, rfl, rfl, hlevel, Except.ok.inj h⟩

/-- **Who sees a confidential issue, or a design of one, is trusted.** -/
theorem trusts_of_canSee {db : Database} {user : UserId} {target : Target} {issue : Issue}
    (hissue : target.issue? = some issue) (hconfidential : target.isConfidential = true)
    (h : db.canSee user target = .ok true) : db.Trusts user issue := by
  obtain ⟨account, project, level, haccount, _, hlevel, hread⟩ := canRead_of_canSee h
  have htrusted := canReadConfidential_of_canRead hissue hconfidential hread
  rw [canReadConfidential_iff] at htrusted
  rcases htrusted with hadmin | ⟨least, rfl, hleast⟩ | hnamed
  · exact .inl ⟨account, haccount, hadmin⟩
  · rw [projectId_of_issue? hissue] at hlevel
    exact .inr (.inl ⟨least, hlevel, hleast⟩)
  · exact .inr (.inr hnamed)

namespace Service

/-! ### New rows -/

/-- True of a row after an event that the event put in: it reports the row's id as new, or no row
before was the same but for its state. -/
def IsNew (before : Database) (result : Except Error Outcome) (row : TodoRow) : Prop :=
  (∃ outcome, result = .ok outcome ∧ idOfRow row.id ∈ outcome.created) ∨
    ∀ old ∈ before.todos, row.origin ≠ old.origin

/-- What a batch reports as new is the effect of an op. -/
theorem mem_created {effects : List Effect} {id : TodoId} :
    id ∈ (outcomeOf effects).created ↔ .created (some id) ∈ effects := by
  rw [outcomeOf, List.mem_filterMap]
  constructor
  · rintro ⟨effect, heffect, hid⟩
    cases effect with
    | created =>
      cases hid
      exact heffect
    | resolved | restored | purged => cases hid
  · intro h
    exact ⟨_, h, rfl⟩

/-- A new row is that of a to-do which was asked for. -/
theorem upsert_of_isNew {now : Int64} {gathered : Except Error (List Op)} {s : State}
    {row : TodoRow} (hrow : row ∈ (conclude now gathered s).2.database.todos)
    (hnew : IsNew s.database ((conclude now gathered s).1.map outcomeOf) row) :
    ∃ ops todo id, gathered = .ok ops ∧ Op.upsert todo ∈ ops ∧
      row.origin = (TodoRow.ofNew id now todo).origin := by
  cases hresult : (conclude now gathered s).1 with
  | error error =>
    rw [conclude_of_error now hresult] at hrow
    rw [hresult] at hnew
    rcases hnew with ⟨outcome, ⟨⟩, _⟩ | hnew
    exact absurd rfl (hnew row hrow)
  | ok effects =>
    obtain ⟨ops, hops, happly⟩ := exists_apply_of_conclude now hresult
    obtain ⟨done, hran, hdatabase, rfl⟩ := Ledger.exists_ran_of_apply happly
    rw [hdatabase, Ledger.refresh_todos] at hrow
    rw [hresult] at hnew
    rcases hnew with ⟨outcome, houtcome, hcreated⟩ | hnew
    · cases houtcome
      obtain ⟨todo, id, hmem, horigin⟩ := hran.origin_of_created hrow (mem_created.1 hcreated)
      exact ⟨ops, todo, id, hops, hmem, horigin⟩
    · rcases hran.origin_cases hrow with ⟨old, hold, horigin⟩ | ⟨todo, id, hmem, horigin⟩
      · exact absurd horigin (hnew old hold)
      · exact ⟨ops, todo, id, hops, hmem, horigin⟩

/-- The row of a new to-do belongs to its recipient. -/
theorem belongsTo_of_origin {now id : Int64} {todo : NewTodo} {row : TodoRow}
    (h : row.origin = (TodoRow.ofNew id now todo).origin) : row.belongsTo todo.userId = true := by
  rw [TodoRow.belongsTo_eq_of_origin_eq h]
  simp [TodoRow.belongsTo, TodoRow.ofNew]

/-- The row of a new to-do is on its target. -/
theorem points_of_origin {now id : Int64} {todo : NewTodo} {row : TodoRow}
    (h : row.origin = (TodoRow.ofNew id now todo).origin) : row.points todo.target = true := by
  rw [TodoRow.points_eq_of_origin_eq h]
  simp [TodoRow.points, TodoRow.ofNew]

/-! ### Who receives to-dos -/

/-- **The recipient of each new to-do was said to see the target of the event.** -/
theorem created_is_seen {σ : Type} (c : Collaborators (StateM σ)) (settings : Settings)
    (now : Int64) (event : Event) (s : State) (world : σ) :
    let ((result, after), later) := (handle c settings now event s).run world
    ∃ seen, (handle c.noted settings now event s).run (world, []) = ((result, after), later, seen) ∧
      ∀ row ∈ after.database.todos, IsNew s.database result row →
        ∃ user target, event.target? = some target ∧ row.belongsTo user = true ∧
          row.points target.reference = true ∧ (user, target) ∈ seen ∧
          c.Affirms s.database user target ∧
          (c.canSee = (Collaborators.builtIn settings).canSee → target.isConfidential = true →
            ∀ issue, target.issue? = some issue → s.database.Trusts user issue) := by
  obtain ⟨seen, hnoted, haffirmed, hasked⟩ := traces_gather c s.database settings event world []
  rw [run_handle, run_handle, hnoted]
  refine ⟨seen, rfl, fun row hrow hnew => ?_⟩
  obtain ⟨ops, todo, id, hops, hupsert, horigin⟩ := upsert_of_isNew hrow hnew
  obtain ⟨target, author, noteId, recipient, htarget, rfl, hseen⟩ := hasked ops hops _ hupsert
  have haffirms := haffirmed _ hseen
  refine ⟨recipient.userId, target, htarget, belongsTo_of_origin horigin, points_of_origin horigin,
    hseen, haffirms, fun hbuiltIn hconfidential issue hissue => ?_⟩
  obtain ⟨_, hanswer⟩ := haffirms
  rw [hbuiltIn] at hanswer
  exact trusts_of_canSee hissue hconfidential hanswer

/-- A confidential issue by bob, assigned to ada, that mentions eve: ada receives a to-do. -/
theorem created_is_seen_assigned :
    let c : Collaborators (StateM Unit) := .builtIn {}
    let issue : Issue :=
      { id := 5, projectId := 1, authorId := 2, description := "ask @eve", assignees := [1]
        confidential := true }
    let s : State :=
      { database :=
          { users := [⟨1, "ada", false, 0, 0⟩, ⟨2, "bob", false, 0, 0⟩, ⟨3, "eve", false, 0, 0⟩]
            projects := [⟨1, "engine", "public", .integer 0⟩] } }
    let row := TodoRow.ofNew 1 7 ⟨1, 2, 1, .row .issue 5, none, .assigned⟩
    let after := ((handle c {} 7 (.newIssue issue 2) s).run ()).1.2
    after.database.todos = [row] ∧ ∃ seen,
      ((handle c.noted {} 7 (.newIssue issue 2) s).run ((), [])).2.2 = seen ∧
        (1, Target.issue issue) ∈ seen ∧ s.database.Trusts 1 issue := by
  intro c issue s row after
  have htodos : after.database.todos = [row] := by decide +kernel
  obtain ⟨seen, hnoted, hrows⟩ := created_is_seen c {} 7 (.newIssue issue 2) s ()
  have hrow : row ∈ after.database.todos := by
    rw [htodos]
    exact List.mem_singleton_self row
  obtain ⟨user, target, htarget, hbelongs, _, hseen, _, htrusts⟩ := hrows row hrow
    (.inr fun old hold => absurd hold List.not_mem_nil)
  cases htarget
  have huser : user = 1 := (Cell.ofId_inj.1 (of_decide_eq_true hbelongs)).symm
  subst huser
  refine ⟨htodos, seen, ?_, hseen, htrusts rfl rfl issue rfl⟩
  rw [hnoted]

end Service

end TodoLedger
