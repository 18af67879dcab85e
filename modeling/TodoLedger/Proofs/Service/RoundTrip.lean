import TodoLedger.Proofs.Service.Bulk
import TodoLedger.Proofs.Service.Request

/-!
# A restore undoes what was resolved

* `ResolvesFor`: the events with which users resolve to-dos of their own, by their ids or all of
  them.
* `Resolved`: just the to-dos with the ids became done, which were pending ones of the user. An
  event that resolves does this with the ids that it lists (`resolved_of_handle`).
* The ledger then takes back what became done (`Resolved.exists_apply_restore`).
* **A restore of the to-dos that a user resolved succeeds, lists the same to-dos, and leaves all
  tables as they were before**, but for the time at which these to-dos changed
  (`handle_restore_resolved`).
-/

namespace TodoLedger

open Ledger (Op Stepped Ran refresh idsOf)

/-- The row with another time of its last change. -/
def TodoRow.updated (now : Int64) (row : TodoRow) : TodoRow :=
  { row with updatedAt := .integer now }

/-- What was pending and became done is as it was after it became pending again. -/
theorem TodoRow.restored_resolved (now later : Int64) (resolution : Resolution) {row : TodoRow}
    (hlives : row.Lives) (hpending : row.isPending = true) :
    (row.resolved now resolution).restored later = row.updated later := by
  rcases hlives with ⟨hstate, hresolution⟩ | ⟨hstate, -⟩
  · rw [restored, resolved, updated, ← hstate, ← hresolution]
  · rw [isPending, hstate] at hpending
    cases hpending

namespace Service

variable {now later : Int64} {resolution : Resolution} {user : UserId} {db after : Database}
  {ids : List TodoId}

/-! ### What was resolved -/

/-- The to-dos with the ids became done, which were pending ones of the user. -/
structure Resolved (now : Int64) (resolution : Resolution) (user : UserId) (db after : Database)
    (ids : List TodoId) : Prop where
  ascending : ids.Pairwise (· < ·)
  pending : ∀ id ∈ ids, ∃ row, db.todoRow? id = some row ∧ row.isPending = true ∧
    row.belongsTo user = true
  database : after = refresh [user] (db.rewriting ids (TodoRow.resolved now resolution))

/-- An op that resolves to-dos of the user. -/
theorem resolved_of_ran (hwf : WellFormed db) (hcounted : Counted db) {op : Op} {done : Ledger.Run}
    (hop : Metrics.resolutionOf? op = some resolution)
    (howned : ∀ row ∈ db.todos, op.affects row = true → row.belongsTo user = true)
    (h : Ran now db [op] done) :
    ∃ ids, done.effects = [.resolved ids] ∧
      Resolved now resolution user db (refresh done.touched done.database) ids := by
  have hrevision : op.isRevision = true := by
    cases op <;> cases hop <;> rfl
  have hafter := h.refresh_owned hwf hcounted hrevision howned
  rw [revised_eq_rewriting hwf.todos (Op.rewrite_of_resolves hop)] at hafter
  refine ⟨idsOf (db.todos.filter op.affects), ?_, ascending_pairwise _, ?_, hafter⟩
  · cases h with
    | cons hstep hrest =>
      cases hrest
      cases hstep with
      | resolved => rfl
      | blocked | inserted | restored | purged => cases hop
  · intro id hid
    obtain ⟨row, hrow, haffects⟩ := (mem_idsOf_filter hwf.todos).1 hid
    exact ⟨row, hrow, Op.isPending_of_affects hop haffects,
      howned row (mem_of_todoRow? hrow) haffects⟩

namespace Resolved

/-- If no to-do is resolved, all stays. -/
theorem none (hcounted : Counted db) : Resolved now resolution user db db [] := by
  refine ⟨.nil, by simp, ?_⟩
  rw [rewriting_nil, hcounted.refresh_eq]

/-- What was resolved is still the user's, and done. -/
theorem exists_done (h : Resolved now resolution user db after ids) {id : TodoId} (hid : id ∈ ids)
    (hkeyed : Keyed (db.todos.map (·.id))) :
    ∃ row, after.todoRow? id = some row ∧ row.isDone = true ∧ row.belongsTo user = true := by
  obtain ⟨row, hrow, -, hbelongs⟩ := h.pending id hid
  refine ⟨row.resolved now resolution, ?_, rfl, hbelongs⟩
  rw [h.database]
  change (db.rewriting ids (TodoRow.resolved now resolution)).todoRow? id = _
  rw [todoRow?_rewriting (f := TodoRow.resolved now resolution) fun _ => rfl, hrow, Option.map_some,
    if_pos ((isNamed_iff_mem hkeyed hrow).2 hid)]

/-- Making it pending again leaves all as it was but the time of the change. -/
theorem rewriting_restored (h : Resolved now resolution user db after ids) (hwf : WellFormed db)
    (hcounted : Counted db) (later : Int64) :
    refresh [user] (after.rewriting ids (TodoRow.restored later)) =
      db.rewriting ids (TodoRow.updated later) := by
  have hrows : ∀ row ∈ db.todos, isNamed ids row.id = true →
      (row.resolved now resolution).restored later = row.updated later := by
    intro row hrow hnamed
    obtain ⟨found, hfound, hpending, -⟩ := h.pending _ (isNamed_iff.1 hnamed).2
    have hsame : db.todoRow? (idOfRow row.id) = some row :=
      (todoRow?_eq_some_iff hwf.todos).2 ⟨hrow, (rowId_idOfRow row.id).symm⟩
    rw [hsame, Option.some.injEq] at hfound
    subst hfound
    exact TodoRow.restored_resolved now later resolution (hwf.todoRows row hrow).lives hpending
  have hupdated : Counted (db.rewriting ids (TodoRow.updated later)) :=
    hcounted.rewriting (f := TodoRow.updated later) (fun _ => rfl) (fun _ => rfl) ids
  rw [h.database, Ledger.refresh_rewriting,
    rewriting_rewriting (f := TodoRow.resolved now resolution) fun _ => rfl,
    rewriting_congr hrows, hupdated.refresh_eq]

/-- **The ledger takes back what was resolved.** -/
theorem exists_apply_restore (h : Resolved now resolution user db after ids) (hwf : WellFormed db)
    (hcounted : Counted db) (hafter : WellFormed after) (hrecounted : Counted after)
    (later : Int64) :
    ∃ effects, Ledger.apply later (Bulk.restore.ops ids user) after =
        .ok (db.rewriting ids (TodoRow.updated later), effects) ∧
      outcomeOf effects = { restored := ids } := by
  have hchanged : Bulk.restore.changed after ids = ids := by
    refine eq_of_mem_iff_of_pairwise (ascending_pairwise _) h.ascending fun id => ?_
    rw [Bulk.restore.mem_changed hafter.todos]
    refine and_iff_left_of_imp fun hid => ?_
    obtain ⟨row, hrow, hdone, -⟩ := h.exists_done hid hwf.todos
    exact ⟨row, hrow, hdone⟩
  rcases Bulk.restore.apply_cases later hafter hrecounted ids user with
    ⟨error, hrefuses, -⟩ | ⟨-, effects, happly, houtcome⟩
  · obtain ⟨id, hid, hforeign⟩ := hrefuses.exists_not_owns
    obtain ⟨row, hrow, -, hbelongs⟩ := h.exists_done hid hwf.todos
    exact absurd ⟨row, hrow, hbelongs⟩ hforeign
  · rw [hchanged] at happly houtcome
    rw [← h.rewriting_restored hwf hcounted later]
    exact ⟨effects, happly, houtcome⟩

end Resolved

/-! ### Events that resolve -/

/-- The event resolves to-dos of the user, those with the ids or all. -/
inductive ResolvesFor (user : UserId) : Event → Prop
  | named (ids : List TodoId) (resolution : Resolution) :
    ResolvesFor user (.resolveTodos ids user resolution)
  | all : ResolvesFor user (.markAllDone user)

/-- **An event that resolves makes the to-dos done that it lists.** -/
theorem resolved_of_handle {σ : Type} {c : Collaborators (StateM σ)} {settings : Settings}
    {event : Event} (hevent : ResolvesFor user event) {s : State} (hwf : WellFormed s.database)
    (hcounted : Counted s.database) {world : σ} {outcome : Outcome}
    (hok : ((handle c settings now event s).run world).1.1 = .ok outcome) :
    ∃ resolution ids, outcome = { resolved := ids } ∧ Resolved now resolution user s.database
      ((handle c settings now event s).run world).1.2.database ids := by
  obtain ⟨ops, done, hops, hran, hafter, rfl⟩ := exists_gather_of_handle hok
  rw [hafter]
  have houtcome {ids : List TodoId} (heffects : done.effects = [.resolved ids]) :
      outcomeOf done.effects = { resolved := ids } := by
    rw [heffects]
    simp [outcomeOf]
  cases hevent with
  | all =>
    cases eq_of_gather c settings rfl hops
    have howned : ∀ row ∈ s.database.todos,
        (Op.resolveAllForUser user .markAllDone).affects row = true → row.belongsTo user = true :=
      fun row _ haffects => (Bool.and_eq_true_iff.1 haffects).2
    obtain ⟨ids, heffects, hresolved⟩ := resolved_of_ran hwf hcounted rfl howned hran
    exact ⟨.markAllDone, ids, houtcome heffects, hresolved⟩
  | named ids resolution =>
    cases eq_of_gather c settings rfl hops
    cases ids with
    | nil =>
      cases hran
      rw [Ledger.refresh_nil]
      exact ⟨resolution, [], rfl, .none hcounted⟩
    | cons first rest =>
      have howned : ∀ row ∈ s.database.todos,
          (Op.resolveCollection (first :: rest) user resolution).affects row = true →
            row.belongsTo user = true := by
        intro row hrow haffects
        cases hran with
        | cons hstep _ =>
          exact Ledger.belongsTo_of_permitted hwf.todos hstep.permitted hrow
            (Bool.and_eq_true_iff.1 haffects).2
      obtain ⟨ids, heffects, hresolved⟩ := resolved_of_ran hwf hcounted rfl howned hran
      exact ⟨resolution, ids, houtcome heffects, hresolved⟩

/-- All to-dos of a user can be resolved, if the store takes it. -/
theorem exists_markAllDone {σ : Type} {c : Collaborators (StateM σ)} (settings : Settings)
    (now : Int64) (htakes : TakesBatches c) {s : State} (hwf : WellFormed s.database)
    (user : UserId) (world : σ) :
    ∃ outcome, ((handle c settings now (.markAllDone user) s).run world).1.1 = .ok outcome := by
  obtain ⟨change, hstep⟩ : ∃ change,
      Ledger.step now (.resolveAllForUser user .markAllDone) s.database = .ok change :=
    Ledger.exists_step_of_permitted now hwf rfl trivial
  obtain ⟨done, hrun⟩ : ∃ done,
      Ledger.run now [.resolveAllForUser user .markAllDone] s.database = .ok done :=
    Ledger.exists_run_cons hstep ⟨_, rfl⟩
  have happly : Ledger.apply now [.resolveAllForUser user .markAllDone] s.database =
      .ok (refresh done.touched done.database, done.effects) :=
    bind_eq_ok_iff.2 ⟨done, hrun, rfl⟩
  refine ⟨outcomeOf done.effects, ?_⟩
  rw [run_handle_of_takesBatches c settings now htakes rfl, conclude_of_apply now happly, report]
  rfl

/-! ### Round trips -/

/-- The restore listed just these to-dos, and left all tables as they were but for the time at which
these changed. -/
structure Undone (later : Int64) (before : Database) (ids : List TodoId)
    (answer : Except Error Outcome × State) : Prop where
  answered : answer.1 = .ok { restored := ids }
  database : answer.2.database = before.rewriting ids (TodoRow.updated later)

/-- **A restore of the to-dos that an event resolved undoes it**, and all to-dos of a user can be
resolved. -/
theorem handle_restore_resolved {σ τ : Type} (c : Collaborators (StateM σ))
    (c' : Collaborators (StateM τ)) (htakes : TakesBatches c') (settings settings' : Settings)
    (now later : Int64) (calls : List Call) (user : UserId) (world : σ) (world' : τ) :
    let s := State.after calls
    (∀ event outcome, ResolvesFor user event →
      ((handle c settings now event s).run world).1.1 = .ok outcome →
        Undone later s.database outcome.resolved
          ((handle c' settings' later (.restoreTodos outcome.resolved user)
            ((handle c settings now event s).run world).1.2).run world').1) ∧
    (TakesBatches c → ∃ outcome,
      ((handle c settings now (.markAllDone user) s).run world).1.1 = .ok outcome) := by
  intro s
  have hwf : WellFormed s.database := wellFormed_after calls
  have hcounted : Counted s.database := counted_after calls
  constructor
  · intro event outcome hevent hok
    obtain ⟨resolution, ids, rfl, hresolved⟩ := resolved_of_handle hevent hwf hcounted hok
    let between := ((handle c settings now event s).run world).1.2
    have hwritten : Written s.database between.database :=
      Call.written s (.handle ⟨σ, c, world⟩ settings now event)
    obtain ⟨effects, happly, houtcome⟩ := hresolved.exists_apply_restore hwf hcounted
      (wellFormed_written hwf hwritten) (hcounted.written hwf hwritten) later
    have hrestore : ((handle c' settings' later (.restoreTodos ids user) between).run world').1 =
        report (.restoreTodos ids user)
          (conclude later (.ok (Bulk.restore.ops ids user)) between) :=
      Bulk.restore.run_handle htakes settings' later ids user between world'
    rw [conclude_of_apply later happly, report] at hrestore
    change Undone later s.database ids
      ((handle c' settings' later (.restoreTodos ids user) between).run world').1
    rw [hrestore]
    exact ⟨congrArg Except.ok houtcome, rfl⟩
  · exact fun htakes => exists_markAllDone settings now htakes hwf user world

/-- Ada's first to-do is done already, so that only the second one is resolved, and restored. -/
theorem handle_restore_resolved_second :
    let c : Collaborators (StateM Unit) := .builtIn {}
    let issue : Issue := { id := 5, projectId := 1, authorId := 2, assignees := [1] }
    let calls : List Call := [.createUser "ada" false, .createUser "bob" false,
      .createProject "engine" .everyone false, .handle ⟨Unit, c, ()⟩ {} 7 (.newIssue issue 2),
      .handle ⟨Unit, c, ()⟩ {} 8 (.markAllDone 1),
      .handle ⟨Unit, c, ()⟩ {} 9 (.newIssue { issue with id := 6 } 2)]
    let event : Event := .resolveTodos [2, 1, 2] 1 .apiDone
    (∃ outcome, ((handle c {} 10 event (State.after calls)).run ()).1.1 = .ok outcome ∧
      outcome.resolved = [2] ∧ Undone 11 (State.after calls).database outcome.resolved
        ((handle c {} 11 (.restoreTodos outcome.resolved 1)
          ((handle c {} 10 event (State.after calls)).run ()).1.2).run ()).1) ∧
    ∃ outcome, ((handle c {} 10 (.markAllDone 1) (State.after calls)).run ()).1.1 =
      .ok outcome := by
  intro c issue calls event
  have htakes : TakesBatches c := takesBatches_builtIn {}
  obtain ⟨hundone, hall⟩ := handle_restore_resolved c c htakes {} {} 10 11 calls 1 () ()
  have hok : ((handle c {} 10 event (State.after calls)).run ()).1.1 = .ok ⟨[], [2], []⟩ := by
    decide +kernel
  exact ⟨⟨_, hok, rfl, hundone event _ (.named [2, 1, 2] .apiDone) hok⟩, hall htakes⟩

end Service

end TodoLedger
