import TodoLedger.Proofs.Service.Failure
import TodoLedger.Proofs.Service.History
import TodoLedger.Proofs.Service.Request

/-!
# Users do not disturb each other

* An event affects to-dos of the acting user, those on a target that it closes (`Event.closes?`),
  and those on a target that it destroys, but no others (`affected_cases`).
* With a personal event (`Event.isPersonal`) a user touches nobody else (`eq_of_touched`).
* `Event.IsConfined`: what all this comes to for the to-dos before and after an event.
* **Every event is confined** (`handle_isConfined`), whatever the collaborators do.
-/

namespace TodoLedger

open Ledger (Op Change Run Stepped Ran)

variable {now : Int64} {db : Database} {event : Event} {todos : List NewTodo} {done : Run}

/-! ### What events may change -/

namespace Event

/-- The target that nobody needs to look at any more after the event. -/
def closes? : Event → Option Target
  | .closeIssue issue _ => some (.issue issue)
  | .closeMergeRequest mergeRequest _ | .mergeMergeRequest mergeRequest _ =>
    some (.mergeRequest mergeRequest)
  | .newIssue .. | .updateIssue .. | .reopenIssue .. | .newMergeRequest .. | .updateMergeRequest ..
  | .reopenMergeRequest .. | .reassigned .. | .buildFailed _ | .push .. | .unmergeable _
  | .awardEmoji .. | .newNote .. | .updateNote .. | .markTodo .. | .resolveTodosForTarget ..
  | .targetDestroyed _ | .resolveTodos .. | .restoreTodos .. | .markAllDone _ => none

/-- True of the events with which users see to their own to-dos only. -/
def isPersonal : Event → Bool
  | .push .. | .awardEmoji .. | .markTodo .. | .resolveTodosForTarget .. | .resolveTodos ..
  | .restoreTodos .. | .markAllDone _ => true
  | .newIssue .. | .updateIssue .. | .closeIssue .. | .reopenIssue .. | .newMergeRequest ..
  | .updateMergeRequest .. | .closeMergeRequest .. | .reopenMergeRequest .. | .mergeMergeRequest ..
  | .reassigned .. | .buildFailed _ | .unmergeable _ | .newNote .. | .updateNote ..
  | .targetDestroyed _ => false

/-- The event changes no to-dos but those that it may change. -/
structure IsConfined (event : Event) (before after : Database) : Prop where
  /-- A to-do of another user than the acting one is changed only with its target closed. -/
  changed : ∀ id row row', before.todoRow? id = some row → after.todoRow? id = some row' →
    row' ≠ row → (∀ user, event.actor? = some user → row.belongsTo user = false) →
      ∃ target, event.closes? = some target ∧ row.points target.reference = true
  /-- A to-do is deleted only with its target. -/
  deleted : ∀ id row, before.todoRow? id = some row → after.todoRow? id = none →
    ∃ target, event = .targetDestroyed target ∧ row.points target.reference = true
  /-- Other users keep their to-dos and their cached numbers in a personal event. -/
  personal : event.isPersonal = true → ∀ user other, event.actor? = some user → other ≠ user →
    after.todos.filter (·.belongsTo other) = before.todos.filter (·.belongsTo other) ∧
      after.cachedCounts other = before.cachedCounts other
  /-- Trouble with a merge request changes no to-do that is there. -/
  impersonal : event.kind = .buildFailed ∨ event.kind = .unmergeable →
    ∀ id row, before.todoRow? id = some row → after.todoRow? id = some row

/-- Where nothing happens all is confined. -/
theorem IsConfined.of_eq {before after : Database} (h : after = before) :
    event.IsConfined before after := by
  subst h
  constructor
  · intro id row row' hrow hrow' hne
    rw [hrow] at hrow'
    exact absurd (Option.some.inj hrow').symm hne
  · intro id row hrow hnone
    rw [hrow] at hnone
    cases hnone
  · exact fun _ _ _ _ _ => ⟨rfl, rfl⟩
  · exact fun _ _ _ hrow => hrow

end Event

/-! ### What a revision affects -/

/-- **An event affects to-dos of the acting user, on a target that it closes, or on a target that it
destroys.** -/
theorem affected_cases {op : Op} (hrevision : event.revision? = some op)
    (hkeyed : Keyed (db.todos.map (·.id))) (hpermitted : op.Permitted db) {row : TodoRow}
    (hrow : row ∈ db.todos) (haffects : op.affects row = true) :
    (∃ user, event.actor? = some user ∧ row.belongsTo user = true) ∨
      (∃ target, event.closes? = some target ∧ row.points target.reference = true) ∨
        ∃ target, event = .targetDestroyed target ∧ row.points target.reference = true := by
  cases event with
  | closeIssue | closeMergeRequest | mergeMergeRequest =>
    cases hrevision
    simp only [Op.affects, Option.all_none, Bool.and_true, Bool.and_eq_true] at haffects
    exact .inr (.inl ⟨_, rfl, haffects.2⟩)
  | push _ user | awardEmoji _ user | resolveTodosForTarget _ user =>
    cases hrevision
    simp only [Op.affects, Option.all_some, Bool.and_eq_true] at haffects
    exact .inl ⟨user, rfl, haffects.2.1.2⟩
  | newNote note user =>
    rw [Event.revision?] at hrevision
    split at hrevision <;> cases hrevision
    simp only [Op.affects, Option.all_some, Bool.and_eq_true] at haffects
    exact .inl ⟨user, rfl, haffects.2.1.2⟩
  | targetDestroyed target =>
    cases hrevision
    exact .inr (.inr ⟨target, rfl, haffects⟩)
  | resolveTodos ids user | restoreTodos ids user =>
    rw [Event.revision?] at hrevision
    split at hrevision <;> cases hrevision
    have hnamed := (Bool.and_eq_true_iff.1 haffects).2
    exact .inl ⟨user, rfl, Ledger.belongsTo_of_permitted hkeyed hpermitted hrow hnamed⟩
  | markAllDone user =>
    cases hrevision
    exact .inl ⟨user, rfl, (Bool.and_eq_true_iff.1 haffects).2⟩
  | newIssue | updateIssue | reopenIssue | newMergeRequest | updateMergeRequest |
    reopenMergeRequest | reassigned | buildFailed | unmergeable | updateNote | markTodo =>
    cases hrevision

/-! ### Who is touched -/

/-- **With a personal event a user touches nobody else.** -/
theorem eq_of_touched (hdb : WellFormed db) (htodos : ∀ todo ∈ todos, event.MayGive todo)
    (hran : Ran now db (event.batch todos) done) (hpersonal : event.isPersonal = true)
    {user other : UserId} (hactor : event.actor? = some user) (hother : other ∈ done.touched) :
    other = user := by
  -- Whom a new to-do touches receives it, and a personal event gives one to the acting user only.
  have hgiven {last : Run} {first : Database} (hran : Ran now first (todos.map .upsert) last)
      (hother : other ∈ last.touched) : other = user := by
    obtain ⟨todo, htodo, rfl⟩ := hran.exists_recipient_of_touched hother
    by_cases hkind : event.kind = .markTodo
    · exact Option.some.inj (((htodos todo htodo).own hkind).symm.trans hactor)
    · have haction := (htodos todo htodo).action
      cases event <;> cases hpersonal <;> first | exact absurd rfl hkind | cases haction
  rcases ran_batch_cases hran with ⟨_, hran⟩ | ⟨op, change, last, hrevision, hstep, hlast, rfl⟩
  · exact hgiven hran hother
  · rcases List.mem_append.1 hother with hother | hother
    · obtain ⟨row, hrow, haffects, hbelongs⟩ :=
        hstep.exists_affected_of_touched (Event.isRevision_of_revision? hrevision) hother
      rcases affected_cases hrevision hdb.todos hstep.permitted hrow haffects with
        ⟨owner, howner, howns⟩ | ⟨target, hcloses, _⟩ | ⟨target, rfl, _⟩
      · cases hactor.symm.trans howner
        exact TodoRow.eq_of_belongsTo hbelongs howns
      · cases event <;> cases hpersonal <;> cases hcloses
      · cases hpersonal
    · exact hgiven hlast hother

namespace Service

/-! ### Events -/

/-- **An event that succeeds is confined.** -/
theorem isConfined_batch (hdb : WellFormed db) (htodos : ∀ todo ∈ todos, event.MayGive todo)
    (hran : Ran now db (event.batch todos) done) :
    event.IsConfined db (Ledger.refresh done.touched done.database) where
  changed id row row' hrow hrow' hne hother := by
    rcases row_of_batch hdb htodos hran hrow with
      hkept | ⟨op, hrevision, hpermitted, haffects, hafter⟩
    · exact absurd (Option.some.inj (hrow'.symm.trans hkept)) hne
    · rcases affected_cases hrevision hdb.todos hpermitted (mem_of_todoRow? hrow) haffects with
        ⟨user, hactor, hbelongs⟩ | hclosed | ⟨target, rfl, _⟩
      · rw [hother user hactor] at hbelongs
        cases hbelongs
      · exact hclosed
      · cases hrevision
        cases hrow'.symm.trans hafter
  deleted id row hrow hnone := by
    rcases row_of_batch hdb htodos hran hrow with hkept | ⟨op, hrevision, _, haffects, hafter⟩
    · cases hnone.symm.trans hkept
    · obtain ⟨reference, rfl⟩ := Op.eq_of_rewrite_none (hafter.symm.trans hnone)
      obtain ⟨target, htarget, rfl⟩ := Event.eq_of_revision?_purges hrevision
      exact ⟨target, htarget, haffects⟩
  personal hpersonal user other hactor hne := by
    have huntouched : other ∉ done.touched := fun hother =>
      hne (eq_of_touched hdb htodos hran hpersonal hactor hother)
    refine ⟨hran.filter_eq_of_not_touched huntouched, ?_⟩
    rw [Database.cachedCounts, userRow?_refresh_of_not_mem huntouched, hran.database_eq]
    rfl
  impersonal hkind id row hrow := by
    rcases row_of_batch hdb htodos hran hrow with hkept | ⟨op, hrevision, _⟩
    · exact hkept
    · rcases hkind with hkind | hkind <;> cases event <;> cases hkind <;> cases hrevision

/-- **Every event is confined**, after all calls, and whether or not it succeeds. -/
theorem handle_isConfined {σ : Type} (calls : List Call) (c : Collaborators (StateM σ))
    (settings : Settings) (now : Int64) (event : Event) (world : σ) :
    event.IsConfined (State.after calls).database
      ((handle c settings now event (State.after calls)).run world).1.2.database := by
  cases hresult : ((handle c settings now event (State.after calls)).run world).1.1 with
  | error => exact .of_eq (handle_of_error hresult).database
  | ok outcome =>
    obtain ⟨todos, done, htodos, hran, hafter, _⟩ := exists_ran_of_handle hresult
    rw [hafter]
    exact isConfined_batch (wellFormed_after calls) htodos hran

/-- Ada closes an issue, and with it bob's to-do. -/
theorem handle_isConfined_closeIssue :
    let c : Collaborators (StateM Unit) := .builtIn {}
    let issue : Issue := { id := 5, projectId := 1, authorId := 1, assignees := [2] }
    let calls : List Call := [.createUser "ada" false, .createUser "bob" false,
      .createProject "engine" .everyone false, .handle ⟨Unit, c, ()⟩ {} 7 (.newIssue issue 1)]
    let event : Event := .closeIssue issue 1
    let row := TodoRow.ofNew 1 7 ⟨2, 1, 1, .row .issue 5, none, .assigned⟩
    (State.after calls).database.todoRow? 1 = some row ∧ row.belongsTo 1 = false ∧
      ((handle c {} 8 event (State.after calls)).run ()).1.2.database.todoRow? 1 =
        some (row.resolved 8 .systemDone) ∧
      ∃ target, event.closes? = some target ∧ row.points target.reference = true := by
  intro c issue calls event row
  have hbefore : (State.after calls).database.todoRow? 1 = some row := by decide +kernel
  have hafter : ((handle c {} 8 event (State.after calls)).run ()).1.2.database.todoRow? 1 =
      some (row.resolved 8 .systemDone) := by decide +kernel
  have hother : ∀ user, event.actor? = some user → row.belongsTo user = false := by
    rintro _ ⟨⟩
    rfl
  have hconfined := handle_isConfined calls c {} 8 event ()
  exact ⟨hbefore, rfl, hafter,
    hconfined.changed 1 row _ hbefore hafter (by decide +kernel) hother⟩

end Service

end TodoLedger
