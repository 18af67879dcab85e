import TodoLedger.Proofs.Service.Failure
import TodoLedger.Proofs.Service.History
import TodoLedger.Proofs.Service.Trace

/-!
# A user is asked only once

* `AskedOnce db`: a user has at most one pending to-do on a target for an assignment, and at most
  one for being mentioned or addressed.
* A new to-do is put in only if none that excludes it is pending, but a restore does not look:
  `RestoresClear` says that what it brings back, together with what is pending, asks the user once.
* **Every request but a restore keeps `AskedOnce`** (`askedOnce_perform_iff`), and a restore that
  succeeds keeps it if and only if it is clear (`askedOnce_restore_iff`).
* **So `AskedOnce` holds throughout a history if and only if all its restores are clear**
  (`askedOnce_throughout_iff`). There are histories in which one is not
  (`askedOnce_fails_after_restore`).
-/

namespace TodoLedger

open Ledger (Op Change Run Stepped Ran revised)

variable {db : Database}

/-! ### Pending to-dos for one reason -/

/-- The sets of actions of which a user has one pending to-do on a target at most. -/
def Action.exclusive : List (List Action) := [[.assigned], [.mentioned, .directlyAddressed]]

/-- The actions that exclude each other are those that stand in the way of each other. -/
theorem conflicts_of_exclusive {actions : List Action} {action : Action}
    (hactions : actions ∈ Action.exclusive) (haction : action ∈ actions) :
    action.conflicts = actions := by
  rcases List.mem_cons.1 hactions with rfl | hactions
  · rw [List.mem_singleton.1 haction]
    rfl
  · rw [List.mem_singleton.1 hactions] at haction ⊢
    cases action <;> first | rfl | simp at haction

/-- True of the rows that ask the user to look at the target for one of the actions. -/
def TodoRow.asks (user : UserId) (target : TargetRef) (actions : List Action) (row : TodoRow) :
    Bool :=
  row.belongsTo user && row.points target && actions.any (row.action = .integer ·.code)

/-- The number of pending to-dos of a user on a target for one of the actions. -/
def Database.pendingFor (db : Database) (user : UserId) (target : TargetRef)
    (actions : List Action) : Nat :=
  db.todos.countP fun row => row.isPending && row.asks user target actions

/-- The number of to-dos that would be pending if those with the ids were made pending again. -/
def Database.pendingWith (db : Database) (ids : List TodoId) (user : UserId) (target : TargetRef)
    (actions : List Action) : Nat :=
  db.todos.countP fun row =>
    (row.isPending || (row.isDone && isNamed ids row.id)) && row.asks user target actions

/-- Each user is asked once at most to look at a target: for an assignment, and for being mentioned
or addressed. -/
def AskedOnce (db : Database) : Prop :=
  ∀ user target, ∀ actions ∈ Action.exclusive, db.pendingFor user target actions ≤ 1

/-- The to-dos that are made pending again ask the user nothing twice. -/
def RestoresClear (db : Database) (ids : List TodoId) (user : UserId) : Prop :=
  ∀ target, ∀ actions ∈ Action.exclusive, db.pendingWith ids user target actions ≤ 1

/-- Where nothing is made pending again, what is pending stays. -/
theorem pendingWith_nil (db : Database) (user : UserId) (target : TargetRef)
    (actions : List Action) :
    db.pendingWith [] user target actions = db.pendingFor user target actions := by
  simp [Database.pendingWith, Database.pendingFor, isNamed]

/-- Nobody is asked for anything at the start. -/
theorem askedOnce_empty : AskedOnce .empty := fun _ _ _ _ => Nat.zero_le 1

/-- What is asked depends on the to-dos only. -/
theorem AskedOnce.of_eq {db' : Database} (h : AskedOnce db) (htodos : db'.todos = db.todos) :
    AskedOnce db' := by
  intro user target actions hactions
  rw [Database.pendingFor, htodos]
  exact h user target actions hactions

/-- What a user is asked depends on the user's to-dos only. -/
theorem pendingFor_congr {db' : Database} {user : UserId}
    (h : db'.todos.filter (·.belongsTo user) = db.todos.filter (·.belongsTo user))
    (target : TargetRef) (actions : List Action) :
    db'.pendingFor user target actions = db.pendingFor user target actions := by
  have hown (db : Database) : db.pendingFor user target actions =
      (db.todos.filter (·.belongsTo user)).countP fun row =>
        row.isPending && row.asks user target actions := by
    rw [Database.pendingFor, List.countP_filter]
    refine List.countP_congr fun row _ => ?_
    simp only [TodoRow.asks, Bool.and_eq_true]
    tauto
  rw [hown, hown, h]

/-- **A row stands in the way of a new to-do if and only if the user is asked already** for an action
that excludes its own. -/
theorem any_blocks_iff {todo : NewTodo} {actions : List Action}
    (hactions : actions ∈ Action.exclusive) (haction : todo.action ∈ actions) :
    db.todos.any (Ledger.blocks · todo) = true ↔
      0 < db.pendingFor todo.userId todo.target actions := by
  rw [Database.pendingFor, List.countP_pos_iff, List.any_eq_true]
  refine exists_congr fun row => and_congr_right fun _ => ?_
  simp only [Ledger.blocks, TodoRow.asks, conflicts_of_exclusive hactions haction,
    Bool.and_eq_true]
  tauto

/-! ### Steps -/

/-- True of the ops that make to-dos pending again. -/
def Ledger.Op.restores : Op → Bool
  | .restoreCollection .. => true
  | .upsert _ | .resolveForTarget .. | .resolveCollection .. | .resolveAllForUser .. |
    .purgeTarget _ => false

/-- Only a restore makes a row pending. -/
theorem eq_of_revise_isPending {now : Int64} {op : Op} {row row' : TodoRow}
    (hop : op.restores = false) (h : op.revise now row = some row')
    (hpending : row'.isPending = true) : row' = row := by
  rw [Op.revise] at h
  split at h
  · cases op with
    | upsert =>
      cases h
      rfl
    | resolveForTarget | resolveCollection | resolveAllForUser =>
      cases h
      cases hpending
    | restoreCollection => cases hop
    | purgeTarget => cases h
  · cases h
    rfl

/-- Only a restore makes more to-dos pending. -/
theorem pendingFor_revised_le {now : Int64} {op : Op} (hop : op.restores = false) (user : UserId)
    (target : TargetRef) (actions : List Action) :
    (revised now op db).pendingFor user target actions ≤ db.pendingFor user target actions := by
  rw [Database.pendingFor, revised, List.countP_filterMap]
  refine List.countP_mono_left fun row _ hcounted => ?_
  cases hrevise : op.revise now row with
  | none =>
    rw [hrevise] at hcounted
    cases hcounted
  | some row' =>
    rw [hrevise] at hcounted
    have hpending : row'.isPending = true := (Bool.and_eq_true_iff.1 hcounted).1
    rw [← eq_of_revise_isPending hop hrevise hpending]
    exact hcounted

/-- A restore makes pending what it names. -/
theorem pendingFor_restored (now : Int64) (ids : List TodoId) (owner user : UserId)
    (target : TargetRef) (actions : List Action) :
    (revised now (.restoreCollection ids owner) db).pendingFor user target actions =
      db.pendingWith ids user target actions := by
  rw [Database.pendingFor, revised, List.countP_filterMap, Database.pendingWith]
  refine List.countP_congr fun row _ => ?_
  rw [Op.revise_of_rewrite (Op.rewrite_restoreCollection ids owner), Option.map_some,
    Option.getD_some]
  cases haffects : (Op.restoreCollection ids owner).affects row with
  | false =>
    change (row.isDone && isNamed ids row.id) = false at haffects
    rw [haffects, Bool.or_false]
    rfl
  | true =>
    change (row.isDone && isNamed ids row.id) = true at haffects
    rw [haffects, Bool.or_true]
    rfl

/-- The row of a new to-do is on the target of the to-do only. -/
theorem eq_of_points_ofNew {id now : Int64} {todo : NewTodo} {target : TargetRef}
    (h : (TodoRow.ofNew id now todo).points target = true) : target = todo.target := by
  have hown : (TodoRow.ofNew id now todo).points todo.target = true := by
    simp [TodoRow.points, TodoRow.ofNew]
  exact TodoRow.eq_of_points h hown

/-- The row of a new to-do has the action of the to-do only. -/
theorem mem_of_asks_ofNew {id now : Int64} {todo : NewTodo} {user : UserId} {target : TargetRef}
    {actions : List Action} (h : (TodoRow.ofNew id now todo).asks user target actions = true) :
    user = todo.userId ∧ target = todo.target ∧ todo.action ∈ actions := by
  rw [TodoRow.asks, Bool.and_eq_true, Bool.and_eq_true] at h
  obtain ⟨⟨hbelongs, hpoints⟩, haction⟩ := h
  obtain ⟨action, hmem, hcode⟩ := List.any_eq_true.1 haction
  have hsame : todo.action = action :=
    Action.code_injective (Cell.integer.inj (of_decide_eq_true hcode))
  exact ⟨(TodoRow.belongsTo_ofNew.1 hbelongs).symm, eq_of_points_ofNew hpoints, hsame ▸ hmem⟩

/-- **Only a restore can ask a user twice.** A new to-do is put in if none that excludes it is
pending, and nothing else makes a to-do pending. -/
theorem AskedOnce.step {now : Int64} {op : Op} {change : Change} (hdb : AskedOnce db)
    (h : Stepped now db op change) (hop : op.restores = false) : AskedOnce change.database := by
  intro user target actions hactions
  have hbefore := hdb user target actions hactions
  cases h with
  | blocked => exact hbefore
  | @inserted todo id hfree =>
    rw [Database.pendingFor, List.countP_append, List.countP_singleton]
    split
    · next hnew =>
      obtain ⟨rfl, rfl, haction⟩ := mem_of_asks_ofNew (Bool.and_eq_true_iff.1 hnew).2
      have hnone : db.pendingFor todo.userId todo.target actions = 0 := by
        rw [← Nat.le_zero, ← Nat.not_lt, ← any_blocks_iff hactions haction]
        simpa using hfree
      exact Nat.le_of_eq (congrArg (· + 1) hnone)
    · exact hbefore
  | resolved | purged => exact Nat.le_trans (pendingFor_revised_le hop user target actions) hbefore
  | restored => cases hop

/-- A batch without restores keeps that users are asked once. -/
theorem AskedOnce.run {now : Int64} {ops : List Op} {done : Run} (hdb : AskedOnce db)
    (h : Ran now db ops done) (hops : ∀ op ∈ ops, op.restores = false) :
    AskedOnce done.database := by
  induction h with
  | nil => exact hdb
  | cons hstep _ ih =>
    refine ih (hdb.step hstep (hops _ List.mem_cons_self)) fun op hop => ?_
    exact hops op (List.mem_cons_of_mem _ hop)

/-- **A restore leaves users asked once if and only if it is clear.** -/
theorem askedOnce_restored_iff {now : Int64} {ids : List TodoId} {user : UserId} {change : Change}
    (hwf : WellFormed db) (hdb : AskedOnce db)
    (h : Stepped now db (.restoreCollection ids user) change) :
    AskedOnce change.database ↔ RestoresClear db ids user := by
  cases h with
  | resolved hop => cases hop
  | restored hpermitted =>
    constructor
    · intro hafter target actions hactions
      rw [← pendingFor_restored now ids user]
      exact hafter user target actions hactions
    · intro hclear owner target actions hactions
      rw [pendingFor_restored]
      by_cases howner : owner = user
      · rw [howner]
        exact hclear target actions hactions
      · refine Nat.le_trans (List.countP_mono_left fun row hrow hcounted => ?_)
          (hdb owner target actions hactions)
        rw [Bool.and_eq_true, Bool.or_eq_true, Bool.and_eq_true] at hcounted
        obtain ⟨hpending | ⟨_, hnamed⟩, hasks⟩ := hcounted
        · rw [hpending, hasks]
          rfl
        · have hbelongs := Ledger.belongsTo_of_permitted hwf.todos hpermitted hrow hnamed
          rw [TodoRow.asks, Bool.and_eq_true, Bool.and_eq_true] at hasks
          exact absurd (TodoRow.eq_of_belongsTo hasks.1.1 hbelongs) howner

namespace Service

/-! ### Requests -/

/-- An event that is no request to restore asks for no restore. -/
theorem restores_of_asked {event : Event} {seen : Sightings} {ops : List Op}
    (h : Asked event seen ops) (hevent : ∀ ids user, event ≠ .restoreTodos ids user) :
    ∀ op ∈ ops, op.restores = false := by
  intro op hop
  cases op with
  | restoreCollection ids user => exact absurd (h _ hop) (hevent ids user)
  | upsert | resolveForTarget | resolveCollection | resolveAllForUser | purgeTarget => rfl

/-- What an event gathers that is no request to restore keeps that users are asked once. -/
theorem askedOnce_conclude {σ : Type} (c : Collaborators (StateM σ)) (settings : Settings)
    (now : Int64) {event : Event} (hevent : ∀ ids user, event ≠ .restoreTodos ids user) {s : State}
    (world : σ) (hdb : AskedOnce s.database) :
    AskedOnce
      (conclude now ((gather c settings event s.database).run.run world).1 s).2.database := by
  rcases conclude_database now ((gather c settings event s.database).run.run world).1 s with
    hsame | ⟨ops, effects, hops, happly⟩
  · rw [hsame]
    exact hdb
  · obtain ⟨done, hran, hafter, _⟩ := Ledger.exists_ran_of_apply happly
    obtain ⟨seen, _, _, hasked⟩ := traces_gather c s.database settings event world []
    rw [hafter]
    exact (hdb.run hran (restores_of_asked (hasked ops hops) hevent)).of_eq rfl

/-- **A restore that succeeds keeps that users are asked once if and only if it is clear.** -/
theorem askedOnce_restore_iff {σ : Type} (c : Collaborators (StateM σ)) (settings : Settings)
    (now : Int64) (ids : List TodoId) (user : UserId) {s : State} (world : σ)
    (hwf : WellFormed s.database) (hdb : AskedOnce s.database)
    (hok : ((handle c settings now (.restoreTodos ids user) s).run world).1.1.isOk = true) :
    AskedOnce ((handle c settings now (.restoreTodos ids user) s).run world).1.2.database ↔
      RestoresClear s.database ids user := by
  rw [run_handle] at hok ⊢
  cases hresult : (conclude now ((gather c settings (.restoreTodos ids user) s.database).run.run
      world).1 s).1 with
  | error =>
    rw [report, hresult] at hok
    cases hok
  | ok effects =>
    obtain ⟨ops, hops, happly⟩ := exists_apply_of_conclude now hresult
    rw [report, State.countEvent_database]
    cases eq_of_gather c settings rfl hops
    obtain ⟨done, hran, hafter, _⟩ := Ledger.exists_ran_of_apply happly
    rw [hafter]
    cases ids with
    | nil =>
      cases hran
      refine ⟨fun _ target actions hactions => ?_, fun _ => hdb.of_eq rfl⟩
      rw [pendingWith_nil]
      exact hdb user target actions hactions
    | cons id rest =>
      cases hran with
      | cons hstep hrest =>
        cases hrest
        rw [← askedOnce_restored_iff hwf hdb hstep]
        exact ⟨fun h => h.of_eq rfl, fun h => h.of_eq rfl⟩

/-- **A request keeps that users are asked once, unless it is a restore that succeeds and is not
clear.** -/
theorem askedOnce_perform_iff {s : State} {call : Call} (hwf : WellFormed s.database)
    (hdb : AskedOnce s.database) (hregular : call.isRegular = true) :
    AskedOnce (call.perform s).database ↔ ∀ around settings now ids user,
      call = .handle around settings now (.restoreTodos ids user) →
        ((handle around.collaborators settings now (.restoreTodos ids user) s).run
          around.world).1.1.isOk = true → RestoresClear s.database ids user := by
  cases call with
  | createUser | createProject | setMember =>
    refine iff_of_true ?_ (by rintro _ _ _ _ _ ⟨⟩)
    exact hdb.of_eq (Call.perform_of_makesAccounts rfl s).1
  | apply => cases hregular
  | destroy around settings now target removal =>
    refine iff_of_true ?_ (by rintro _ _ _ _ _ ⟨⟩)
    rw [Call.perform]
    rcases run_destroy_database around.collaborators settings now target removal s around.world with
      hsame | ⟨between, hconclude⟩
    · rw [hsame]
      exact hdb
    · rw [hconclude]
      exact askedOnce_conclude around.collaborators settings now (by rintro _ _ ⟨⟩) between hdb
  | handle around settings now event =>
    cases event with
    | restoreTodos ids user =>
      cases hresult : ((handle around.collaborators settings now (.restoreTodos ids user) s).run
          around.world).1.1 with
      | error error =>
        refine iff_of_true (hdb.of_eq (by rw [Call.perform, (handle_of_error hresult).database])) ?_
        rintro _ _ _ _ _ ⟨⟩ hok
        rw [hresult] at hok
        cases hok
      | ok outcome =>
        have hok := congrArg Except.isOk hresult
        refine (askedOnce_restore_iff around.collaborators settings now ids user around.world hwf
          hdb hok).trans ⟨fun hclear => ?_, fun hclear => hclear _ _ _ _ _ rfl hok⟩
        rintro _ _ _ _ _ ⟨⟩ _
        exact hclear
    | _ =>
      refine iff_of_true ?_ (by rintro _ _ _ _ _ ⟨⟩)
      rw [Call.perform, run_handle]
      exact askedOnce_conclude around.collaborators settings now (by rintro _ _ ⟨⟩) around.world hdb

/-! ### Histories -/

/-- **Users are asked only once throughout a history if and only if all its restores are clear.** -/
theorem askedOnce_throughout_iff (calls : List Call)
    (hregular : ∀ call ∈ calls, call.isRegular = true) :
    (∀ earlier, earlier <+: calls → AskedOnce (State.after earlier).database) ↔
      ∀ earlier around settings now ids user,
        earlier ++ [.handle around settings now (.restoreTodos ids user)] <+: calls →
          ((handle around.collaborators settings now (.restoreTodos ids user)
            (State.after earlier)).run around.world).1.1.isOk = true →
              RestoresClear (State.after earlier).database ids user := by
  have hstep {earlier : List Call} {call : Call} (hearlier : earlier ++ [call] <+: calls)
      (hbefore : AskedOnce (State.after earlier).database) :=
    askedOnce_perform_iff (wellFormed_after earlier) hbefore
      (hregular call (hearlier.subset (by simp)))
  constructor
  · intro hthroughout earlier around settings now ids user hearlier hok
    have hbefore := hthroughout earlier ((List.prefix_append _ _).trans hearlier)
    have hafter := hthroughout _ hearlier
    rw [State.after_concat] at hafter
    exact (hstep hearlier hbefore).1 hafter around settings now ids user rfl hok
  · intro hclear earlier
    -- The prefixes are shorter histories, which the last call of each leads from one to the next.
    induction earlier using List.reverseRecOn with
    | nil => exact fun _ => askedOnce_empty
    | append_singleton earlier call ih =>
      intro hearlier
      have hbefore := ih ((List.prefix_append _ _).trans hearlier)
      rw [State.after_concat, hstep hearlier hbefore]
      rintro around settings now ids user rfl hok
      exact hclear earlier around settings now ids user hearlier hok

/-- Without a new to-do in between, what is resolved can be restored. -/
theorem askedOnce_throughout_resolve_restore :
    let around : Surroundings := ⟨Unit, .builtIn {}, ()⟩
    let issue : Issue := { id := 5, projectId := 1, authorId := 2, assignees := [1] }
    let calls : List Call := [.createUser "ada" false, .createUser "bob" false,
      .createProject "engine" .everyone false, .handle around {} 7 (.newIssue issue 2),
      .handle around {} 8 (.resolveTodos [1] 1 .markDone),
      .handle around {} 9 (.restoreTodos [1] 1)]
    ∀ earlier, earlier <+: calls → AskedOnce (State.after earlier).database := by
  intro around issue calls
  have hregular : ∀ call ∈ calls, call.isRegular = true := by simp [calls, Call.isRegular]
  refine (askedOnce_throughout_iff calls hregular).2 ?_
  intro earlier other settings now ids user hearlier _ target actions _
  have hlength : (State.after (calls.take 5)).database.todos.length = 1 := by decide +kernel
  have hlast : earlier = calls.take 5 := by
    obtain ⟨later, hcalls⟩ := hearlier
    rcases earlier with _ | ⟨_, _ | ⟨_, _ | ⟨_, _ | ⟨_, _ | ⟨_, _ | ⟨_, _⟩⟩⟩⟩⟩⟩ <;>
      simp [calls] at hcalls
    · simp [calls, hcalls]
  rw [hlast, ← hlength]
  exact List.countP_le_length

/-- **A restore can ask a user twice**: ada is assigned again after her to-do was resolved, and then
makes the first one pending again. -/
theorem askedOnce_fails_after_restore :
    ¬ ∀ calls : List Call, (∀ call ∈ calls, call.isRegular = true) →
      AskedOnce (State.after calls).database := by
  intro h
  let around : Surroundings := ⟨Unit, .builtIn {}, ()⟩
  let issue : Issue := { id := 5, projectId := 1, authorId := 2, assignees := [1] }
  let calls : List Call := [.createUser "ada" false, .createUser "bob" false,
    .createProject "engine" .everyone false, .handle around {} 7 (.newIssue issue 2),
    .handle around {} 8 (.resolveTodos [1] 1 .markDone),
    .handle around {} 9 (.reassigned (.issue issue) 2 []),
    .handle around {} 10 (.restoreTodos [1] 1)]
  have htwice : (State.after calls).database.pendingFor 1 (.row .issue 5) [.assigned] = 2 := by
    decide +kernel
  have honce := h calls (by simp [calls, Call.isRegular]) 1 (.row .issue 5) [.assigned]
    (by simp [Action.exclusive])
  omega

end Service

end TodoLedger
