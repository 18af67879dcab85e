import TodoLedger.Proofs.Insertion
import TodoLedger.Proofs.Service.Telling

/-!
# Failed builds

* `Build`: a merge request whose builds fail, and who sees it. `Build.IsConcerned`: the user works
  on it and sees it, however often they are named.
* Nothing stands in the way of a to-do for a failed build, so each failure gives every user who is
  concerned one more row, by themselves, and nobody else any (`Build.failed_of_handle`).
* `Build.Fails n s t`: builds fail `n` times, one after the other, which leads from `s` to `t`.
  **Then every user who is concerned has `n` more pending to-dos** (`Build.Fails.exists_failed`).
* **A push makes done just the pending to-dos of the pushing user for failed builds of the merge
  request**, the old ones and the new ones (`builds_accumulate`).
-/

namespace TodoLedger.Service

open Ledger (Op Ran Inserted blocks revised refresh)

/-- A merge request whose builds fail, and what is known of it. -/
structure Build where
  mr : MergeRequest
  /-- Who sees it. -/
  visible : UserId → Bool

namespace Build

variable (b : Build) {user : UserId} {row : TodoRow}

/-! ### Who is concerned -/

/-- What the to-dos are on. -/
def target : Target := .mergeRequest b.mr

/-- The user works on the merge request, and sees it. -/
structure IsConcerned (user : UserId) : Prop where
  participant : user ∈ b.mr.mergeParticipants
  visible : b.visible user = true

/-- The users who are concerned, in ascending order. -/
def users : List UserId := (ascending b.mr.mergeParticipants).filter b.visible

/-- The to-do that a failure gives a user, by themselves. -/
def todoFor (user : UserId) : NewTodo where
  userId := user
  authorId := user
  projectId := b.target.projectId
  target := b.target.reference
  noteId := none
  action := .buildFailed

/-- True of the pending rows of the user for failed builds of the merge request. -/
def awaits (user : UserId) (row : TodoRow) : Bool :=
  row.isPending && row.asks user b.target.reference [.buildFailed]

/-- In the list are those whom the failed build concerns. -/
theorem mem_users : user ∈ b.users ↔ b.IsConcerned user := by
  rw [users, List.mem_filter, mem_ascending]
  exact ⟨fun ⟨hparticipant, hvisible⟩ => ⟨hparticipant, hvisible⟩,
    fun ⟨hparticipant, hvisible⟩ => ⟨hparticipant, hvisible⟩⟩

/-- Each user gets one to-do. -/
theorem nodup_users : ((b.users.map b.todoFor).map (·.userId)).Nodup := by
  rw [Ledger.map_userId_map fun _ => rfl]
  exact (nodup_ascending _).filter _

/-- No row stands in the way of a to-do for a failed build. -/
theorem blocks_todoFor (row : TodoRow) (user : UserId) : blocks row (b.todoFor user) = false :=
  Bool.and_false _

/-- The row of a failed build waits for the user to whom it belongs. -/
theorem awaits_ofNew (id now : Int64) (user other : UserId) :
    b.awaits other (TodoRow.ofNew id now (b.todoFor user)) =
      (TodoRow.ofNew id now (b.todoFor user)).belongsTo other := by
  have hpending : (TodoRow.ofNew id now (b.todoFor user)).isPending = true := rfl
  have hpoints : (TodoRow.ofNew id now (b.todoFor user)).points b.target.reference = true := by
    simp [TodoRow.points, TodoRow.ofNew, todoFor]
  rw [awaits, TodoRow.asks, hpending, hpoints, Bool.true_and, Bool.and_true]
  exact Bool.and_true _

/-! ### One failure -/

/-- What became of the to-dos after builds failed `n` times. -/
structure Failed (n : Nat) (before after : Database) (rows : List TodoRow) : Prop where
  /-- The new rows are all that changed. -/
  appended : after.todos = before.todos ++ rows
  /-- They are for users who are concerned, by themselves, and pending. -/
  new : ∀ row ∈ rows, ∃ user now, b.IsConcerned user ∧
    row = TodoRow.ofNew row.id now (b.todoFor user)
  /-- Each of these users has `n` more pending to-dos for failed builds. -/
  pending : ∀ user, b.IsConcerned user → after.pendingFor user b.target.reference [.buildFailed] =
    before.pendingFor user b.target.reference [.buildFailed] + n

section Failure

variable {σ : Type} {c : Collaborators (StateM σ)} {settings : Settings} {now : Int64}
  {db after : Database} {rows : List TodoRow}

/-- **A failed build asks for a to-do for each user who is concerned.** -/
theorem gives_gather (hshows : Shows (c.witnesses db) b.target b.visible) :
    Gives (gather c settings (.buildFailed b.mr) db)
      (· = (b.users.map b.todoFor).map .upsert) := by
  refine .gather ?_
  change Gives (planParticipants (c.witnesses db) b.target .buildFailed) _
  refine .of_validated (.bind (hshows.ofUsers .buildFailed _) fun recipients hrecipients =>
    .pure ?_)
  rw [hrecipients, List.flatMap_map, List.map_map, ← List.flatMap_pure_eq_map]
  rfl

/-- Each user who is concerned has one of the rows that were put in. -/
theorem countP_awaits (h : Inserted now db after (b.users.map b.todoFor) rows)
    (hconcerned : b.IsConcerned user) : rows.countP (b.awaits user) = 1 := by
  have htodo : b.todoFor user ∈ b.users.map b.todoFor :=
    List.mem_map_of_mem (b.mem_users.2 hconcerned)
  have hfree : db.todos.any (blocks · (b.todoFor user)) = false :=
    List.any_eq_false.2 fun row _ => Bool.eq_false_iff.1 (b.blocks_todoFor row user)
  obtain ⟨row, hrow, hbelongs⟩ : ∃ row ∈ rows, row.belongsTo user = true :=
    (h.exists_row_iff_of_mem b.nodup_users htodo).2 hfree
  have hown : rows.filter (b.awaits user) = rows.filter (·.belongsTo user) := by
    refine List.filter_congr fun row hrow => ?_
    obtain ⟨todo, htodo, heq⟩ := h.exists_todo row hrow
    obtain ⟨other, -, rfl⟩ := List.mem_map.1 htodo
    rw [heq, b.awaits_ofNew]
  rw [List.countP_eq_length_filter, hown, h.filter_belongsTo b.nodup_users hrow hbelongs]
  rfl

/-- **A failed build gives every user who is concerned one row, by themselves**, and nobody else
any. -/
theorem failed_of_handle {s : State} {world : σ} {outcome : Outcome}
    (hshows : Shows (c.witnesses s.database) b.target b.visible)
    (hok : ((handle c settings now (.buildFailed b.mr) s).run world).1.1 = .ok outcome) :
    ∃ rows, b.Failed 1 s.database
      ((handle c settings now (.buildFailed b.mr) s).run world).1.2.database rows := by
  obtain ⟨ops, done, hops, hran, hafter, -⟩ := exists_gather_of_handle hok
  obtain rfl := b.gives_gather hshows world ops hops
  obtain ⟨rows, hinserted⟩ := hran.exists_inserted b.nodup_users
  rw [hafter]
  refine ⟨rows, hinserted.appended, fun row hrow => ?_, fun user hconcerned => ?_⟩
  · obtain ⟨todo, htodo, heq⟩ := hinserted.exists_todo row hrow
    obtain ⟨user, huser, rfl⟩ := List.mem_map.1 htodo
    exact ⟨user, now, b.mem_users.1 huser, heq⟩
  · have hnew := b.countP_awaits hinserted hconcerned
    change done.database.todos.countP (b.awaits user) = s.database.todos.countP (b.awaits user) + 1
    rw [hinserted.appended, List.countP_append, hnew]

end Failure

/-! ### Several failures -/

/-- Builds fail one after the other, and each time the event succeeds. The collaborators may be
others each time, but if they answer, they tell that the same users see the merge request. -/
inductive Fails (b : Build) : Nat → State → State → Prop
  | none (s : State) : b.Fails 0 s s
  | again {n : Nat} {s t : State} {around : Surroundings} {settings : Settings} {now : Int64}
    {outcome : Outcome} (h : b.Fails n s t)
    (hshows : Shows (around.collaborators.witnesses t.database) b.target b.visible)
    (hok : ((handle around.collaborators settings now (.buildFailed b.mr) t).run
      around.world).1.1 = .ok outcome) :
    b.Fails (n + 1) s (Call.perform t (.handle around settings now (.buildFailed b.mr)))

namespace Fails

variable {b} {n : Nat} {s t : State}

/-- **After builds failed `n` times, every user who is concerned has `n` more pending to-dos for
that**, and nobody else has a new row. -/
theorem exists_failed (h : b.Fails n s t) : ∃ rows, b.Failed n s.database t.database rows := by
  induction h with
  | none =>
    exact ⟨[], (List.append_nil _).symm, fun row hrow => absurd hrow List.not_mem_nil,
      fun _ _ => rfl⟩
  | again _ hshows hok ih =>
    obtain ⟨rows, happended, hnew, hpending⟩ := ih
    obtain ⟨last, happended', hnew', hpending'⟩ := b.failed_of_handle hshows hok
    refine ⟨rows ++ last, ?_, fun row hrow => ?_, fun user hconcerned => ?_⟩
    · rw [← List.append_assoc, ← happended]
      exact happended'
    · exact (List.mem_append.1 hrow).elim (hnew row) (hnew' row)
    · rw [← Nat.add_assoc, ← hpending user hconcerned]
      exact hpending' user hconcerned

/-- Failures are calls. -/
theorem exists_after {calls : List Call} (h : b.Fails n (State.after calls) t) :
    ∃ later, t = State.after (calls ++ later) := by
  generalize hs : State.after calls = s at h
  induction h with
  | none => exact ⟨[], by rw [List.append_nil, hs]⟩
  | @again _ _ _ around settings now _ _ _ _ ih =>
    obtain ⟨later, rfl⟩ := ih hs
    refine ⟨later ++ [.handle around settings now (.buildFailed b.mr)], ?_⟩
    rw [← List.append_assoc, State.after_concat]

/-- Failures do not change who sees what. -/
theorem canSee_eq (h : b.Fails n s t) (user : UserId) (target : Target) :
    t.database.canSee user target = s.database.canSee user target := by
  induction h with
  | none => rfl
  | again _ _ hok ih =>
    obtain ⟨ops, done, -, hran, hafter, -⟩ := exists_gather_of_handle hok
    rw [← ih, Call.perform, hafter]
    exact hran.canSee_refresh user target

end Fails

/-- A merge request as the built-in collaborators tell of it. -/
def builtIn (db : Database) (mr : MergeRequest) : Build where
  mr := mr
  visible user := db.canSee user (.mergeRequest mr) matches .ok true

/-- With the built-in collaborators it is the database that tells who sees the merge request,
before all failures as well as between them. -/
theorem Fails.again_builtIn {n : Nat} {s t : State} {mr : MergeRequest} {around : Surroundings}
    {settings : Settings} {now : Int64} {outcome : Outcome}
    (hbuiltIn : around.collaborators = .builtIn settings) (h : (builtIn s.database mr).Fails n s t)
    (hok : ((handle around.collaborators settings now (.buildFailed mr) t).run
      around.world).1.1 = .ok outcome) :
    (builtIn s.database mr).Fails (n + 1) s
      (Call.perform t (.handle around settings now (.buildFailed mr))) := by
  refine .again h ?_ hok
  have hshows := shows_builtIn (σ := around.World) settings t.database (.mergeRequest mr)
  simp only [h.canSee_eq] at hshows
  rw [hbuiltIn]
  exact hshows

/-! ### The push that follows -/

/-- What a push resolves are the rows that wait for the pushing user. -/
theorem affects_resolution (user : UserId) (row : TodoRow) :
    (Op.resolveForTarget b.target.reference (some user) (some .buildFailed)).affects row =
      b.awaits user row := by
  simp [Op.affects, awaits, TodoRow.asks, Bool.and_comm, Bool.and_left_comm]

section Push

variable {σ : Type} (c : Collaborators (StateM σ)) (settings : Settings) (now : Int64)
  (user : UserId) {s : State} (world : σ) (hvalid : b.target.validate = .ok ())

include hvalid

/-- A push of a valid merge request asks nobody anything. -/
theorem plan_push (db : Database) : plan (c.witnesses db) settings (.push b.mr user) =
    pure [.resolveForTarget b.target.reference (some user) (some .buildFailed)] := by
  change planResolve b.target (some user) (some .buildFailed) = _
  rw [planResolve, validated, hvalid]
  exact pure_bind _ _

/-- A push succeeds if the store takes it. -/
theorem exists_handle_push (htakes : TakesBatches c) (hdb : WellFormed s.database) :
    ∃ outcome, ((handle c settings now (.push b.mr user) s).run world).1.1 = .ok outcome := by
  let op : Op := .resolveForTarget b.target.reference (some user) (some .buildFailed)
  have hrevision : op.isRevision = true := rfl
  have hpermitted : op.Permitted s.database := trivial
  obtain ⟨after, effects, happly⟩ := Ledger.exists_apply_revision now hdb hrevision hpermitted
  rw [run_handle_of_takesBatches c settings now htakes (b.plan_push c settings user hvalid _)]
  exact ⟨outcomeOf effects, congrArg (·.1.map outcomeOf) (conclude_of_apply now happly)⟩

/-- **A push makes done what waits for the pushing user, and changes no other row.** -/
theorem todos_of_handle_push {outcome : Outcome}
    (hok : ((handle c settings now (.push b.mr user) s).run world).1.1 = .ok outcome) :
    ((handle c settings now (.push b.mr user) s).run world).1.2.database.todos =
      s.database.todos.map fun row =>
        if b.awaits user row then row.resolved now .systemDone else row := by
  obtain ⟨ops, done, hops, hran, hafter, -⟩ := exists_gather_of_handle hok
  obtain rfl := eq_of_gather c settings (b.plan_push c settings user hvalid _) hops
  rw [hafter]
  cases hran with
  | cons hstep hrest =>
    cases hrest
    rw [Ledger.refresh_todos, hstep.eq_revised rfl,
      Ledger.revised_of_rewrite (Op.rewrite_of_resolves rfl)]
    simp only [b.affects_resolution]

end Push

end Build

open Build

/-- **Failed builds add up, and a push clears those of the pushing user.** After all calls, when
builds of a valid merge request have failed `n` times, every user who works on it and sees it has
`n` more pending to-dos for that, by themselves, whatever was pending before, and nobody else has a
new one. A push that follows makes done all that the pushing user has of them, and leaves every
other row as it was; it fails only if the store does not take it. -/
theorem builds_accumulate (calls : List Call) (b : Build) (hvalid : b.target.validate = .ok ())
    {n : Nat} {s : State} (hfails : b.Fails n (State.after calls) s) :
    (∃ rows, b.Failed n (State.after calls).database s.database rows) ∧
      ∀ {σ : Type} (c : Collaborators (StateM σ)) (settings : Settings) (now : Int64)
        (user : UserId) (world : σ),
        let pushed := ((handle c settings now (.push b.mr user) s).run world).1
        (TakesBatches c → ∃ outcome, pushed.1 = .ok outcome) ∧
          ∀ outcome, pushed.1 = .ok outcome →
            pushed.2.database.todos = s.database.todos.map fun row =>
              if b.awaits user row then row.resolved now .systemDone else row := by
  refine ⟨hfails.exists_failed, fun c settings now user world => ⟨fun htakes => ?_, ?_⟩⟩
  · obtain ⟨later, rfl⟩ := hfails.exists_after
    exact b.exists_handle_push c settings now user world hvalid htakes (wellFormed_after _)
  · exact fun outcome hok => b.todos_of_handle_push c settings now user world hvalid hok

/-- Ada is named twice, nobody is user 9, and eve does not see the code; bob has asked for a to-do of
his own. Builds fail twice, then bob pushes. -/
theorem builds_accumulate_twice :
    let c : Collaborators (StateM Unit) := .builtIn {}
    let around : Surroundings := ⟨Unit, c, ()⟩
    let mr : MergeRequest :=
      { id := 5, projectId := 1, authorId := 2, mergeParticipants := [2, 1, 9, 1, 3] }
    let calls : List Call := [.createUser "ada" false, .createUser "bob" false,
      .createUser "eve" false, .createProject "engine" .membersOnly true, .setMember 1 1 .developer,
      .setMember 1 2 .developer, .handle around {} 7 (.markTodo (.mergeRequest mr) 2)]
    let s := State.after calls
    let b := builtIn s.database mr
    let failed (now : Int64) (t : State) := Call.perform t (.handle around {} now (.buildFailed mr))
    let t := failed 9 (failed 8 s)
    b.users = [1, 2] ∧ b.Fails 2 s t ∧
      (∃ rows, b.Failed 2 s.database t.database rows) ∧
      t.database.todos.map (b.awaits 2) = [false, false, true, false, true] ∧
      ((handle c {} 10 (.push b.mr 2) t).run ()).1.2.database.todos =
        t.database.todos.map fun row =>
          if b.awaits 2 row then row.resolved 10 .systemDone else row := by
  intro c around mr calls s b failed t
  have hfirst : ((handle around.collaborators {} 8 (.buildFailed mr) s).run around.world).1.1 =
      .ok ⟨[2, 3], [], []⟩ := by decide +kernel
  have hsecond : ((handle around.collaborators {} 9 (.buildFailed mr) (failed 8 s)).run
      around.world).1.1 = .ok ⟨[4, 5], [], []⟩ := by decide +kernel
  have honce : b.Fails 1 s (failed 8 s) := .again_builtIn rfl (.none s) hfirst
  have hfails : b.Fails 2 s t := .again_builtIn rfl honce hsecond
  obtain ⟨hrows, hpush⟩ := builds_accumulate calls b (by decide +kernel) hfails
  obtain ⟨hsucceeds, hcleared⟩ := hpush c {} 10 2 ()
  obtain ⟨outcome, houtcome⟩ := hsucceeds (takesBatches_builtIn {})
  exact ⟨by decide +kernel, hfails, hrows, by decide +kernel, hcleared outcome houtcome⟩

end TodoLedger.Service
