import TodoLedger.Proofs.Service.History
import TodoLedger.Proofs.Service.Request

/-!
# Events that are handled twice

* `Settled db op`: the op does nothing to the database, at any time. A batch of settled ops does
  nothing either (`apply_of_settled`).
* After the batch of an event all its ops are settled (`settled_batch`): a new to-do is in the way
  of its like, and a revision leaves nothing that it would change.
* With the built-in collaborators an event asks for the same ops afterwards (`gather_builtIn`).
* **So an event that is handled again does nothing** (`handle_again`), unless it gives to-dos of a
  kind of which a user can have many, or is a note of a user who mentions themselves.
-/

namespace TodoLedger

open Ledger (Op Effect Run Ran blocks refresh)

variable {now : Int64} {db : Database} {ops : List Op} {op : Op} {event : Event}
  {todos : List NewTodo} {done : Run}

/-! ### Settled ops -/

namespace Ledger

/-- The op does nothing to the database. -/
def Settled (db : Database) (op : Op) : Prop := ∀ now, step now op db = .ok ⟨db, op.idle, []⟩

/-- A new to-do is settled if a row stands in its way. -/
theorem settled_upsert {todo : NewTodo} (h : db.todos.any (blocks · todo) = true) :
    Settled db (.upsert todo) := by
  intro now
  rw [step, upsert, if_pos h]
  rfl

/-- In a well-formed database the check of an op lets pass what is permitted. -/
theorem check_of_permitted (hdb : WellFormed db) (h : op.Permitted db) : op.check db = .ok () := by
  cases op with
  | resolveCollection | restoreCollection => exact (checkOwnership_eq_ok_iff hdb).2 h
  | upsert | resolveForTarget | resolveAllForUser | purgeTarget => rfl

/-- A revision is settled if it is permitted and affects no row. -/
theorem settled_revision (hdb : WellFormed db) (hop : op.isRevision = true)
    (hpermitted : op.Permitted db) (h : ∀ row ∈ db.todos, op.affects row = false) :
    Settled db op := fun _ => step_eq_idle hop (check_of_permitted hdb hpermitted) h

/-- Settled ops that run do nothing. -/
theorem run_of_settled (now : Int64) (h : ∀ op ∈ ops, Settled db op) :
    run now ops db = .ok ⟨db, ops.map Op.idle, []⟩ := by
  induction ops with
  | nil => rfl
  | cons op rest ih =>
    have hrest := ih fun other hother => h other (List.mem_cons_of_mem _ hother)
    rw [run, h op List.mem_cons_self now]
    change (run now rest db >>= fun after => _) = _
    rw [hrest]
    rfl

/-- **A batch of settled ops does nothing.** -/
theorem apply_of_settled (now : Int64) (h : ∀ op ∈ ops, Settled db op) :
    apply now ops db = .ok (db, ops.map Op.idle) := by
  rw [apply, run_of_settled now h]
  change Except.ok (refresh [] db, _) = _
  rw [refresh_nil]

end Ledger

/-! ### After a batch -/

/-- What becomes of a row in a revision is not affected again. -/
theorem not_affects_of_revise {row row' : TodoRow} (hop : op.isRevision = true)
    (h : op.revise now row = some row') : op.affects row' = false := by
  rw [Op.revise] at h
  split at h
  · cases op with
    | upsert => cases hop
    | resolveForTarget | resolveCollection | resolveAllForUser | restoreCollection =>
      cases h
      rfl
    | purgeTarget => cases h
  · next haffects =>
    cases h
    simpa using haffects

/-- After the batch of an event its revision is permitted as before. -/
theorem permitted_of_batch (hdb : WellFormed db) (htodos : ∀ todo ∈ todos, event.MayGive todo)
    (hran : Ran now db (event.batch todos) done) (hrevision : event.revision? = some op)
    (hpermitted : op.Permitted db) : op.Permitted done.database := by
  have hkept (user : UserId) (id : TodoId) (hpurge : ∀ target, op ≠ .purgeTarget target)
      (h : Ledger.refusal? db user id = none) :
      Ledger.refusal? done.database user id = none := by
    obtain ⟨row, hrow, hbelongs⟩ := (refusal?_eq_none_iff hdb.todos).1 h
    rw [refusal?_eq_none_iff (hdb.run hran).todos]
    rcases row_of_batch hdb htodos hran hrow with hafter | ⟨other, hother, _, haffects, hafter⟩
    · exact ⟨row, hafter, hbelongs⟩
    · cases hrevision.symm.trans hother
      cases hrewrite : op.rewrite now row with
      | none =>
        obtain ⟨target, rfl⟩ := Op.eq_of_rewrite_none hrewrite
        exact absurd rfl (hpurge target)
      | some row' =>
        have hrevise : op.revise now row = some row' := by rw [Op.revise, if_pos haffects, hrewrite]
        refine ⟨row', hafter.trans hrewrite, ?_⟩
        rw [TodoRow.belongsTo_eq_of_origin_eq (Op.revise_origin hrevise)]
        exact hbelongs
  cases op with
  | resolveCollection ids user | restoreCollection ids user =>
    exact fun id hid => hkept user id (by simp) (hpermitted id hid)
  | upsert | resolveForTarget | resolveAllForUser | purgeTarget => trivial

/-- A revision in the batch of an event was permitted, and affects no row afterwards, if it affects
no new one. -/
theorem not_affects_of_batch (hran : Ran now db (event.batch todos) done)
    (hrevision : event.revision? = some op)
    (hnew : ∀ todo ∈ todos, ∀ id, op.affects (TodoRow.ofNew id now todo) = false) :
    op.Permitted db ∧ ∀ row ∈ done.database.todos, op.affects row = false := by
  have hop := Event.isRevision_of_revision? hrevision
  rcases ran_batch_cases hran with ⟨hnone, _⟩ | ⟨other, change, last, hother, hstep, hlast, rfl⟩
  · cases hrevision.symm.trans hnone
  · cases hrevision.symm.trans hother
    refine ⟨hstep.permitted, fun row hrow => ?_⟩
    obtain ⟨rows, hrows, hborn⟩ := hlast.append_of_upserts
    rw [hrows, hstep.eq_revised hop] at hrow
    rcases List.mem_append.1 hrow with hrow | hrow
    · obtain ⟨old, _, hrevise⟩ := List.mem_filterMap.1 hrow
      exact not_affects_of_revise hop hrevise
    · obtain ⟨todo, htodo, id, rfl⟩ := hborn row hrow
      exact hnew todo htodo id

/-- Other events give only to-dos of which a pending one stands in the way of the next. -/
theorem mem_conflicts_of_mayGive {todo : NewTodo} (h : event.MayGive todo)
    (hkind : event.kind ∉ [.markTodo, .buildFailed, .unmergeable]) :
    todo.action ∈ todo.action.conflicts := by
  have hexcludes : ∀ action ∈ [Action.assigned, .mentioned, .directlyAddressed],
      action ∈ action.conflicts := by decide
  refine hexcludes _ ?_
  have haction := h.action
  cases event with
  | newIssue | newMergeRequest => exact haction
  | updateIssue | updateMergeRequest | newNote | updateNote =>
    exact List.mem_cons_of_mem _ haction
  | reassigned =>
    rw [List.mem_singleton.1 haction]
    exact List.mem_cons_self
  | markTodo | buildFailed | unmergeable => exact absurd (by simp [Event.kind]) hkind
  | _ => cases haction

/-- **After the batch of an event all its ops are settled.** -/
theorem settled_batch (hdb : WellFormed db) (htodos : ∀ todo ∈ todos, event.MayGive todo)
    (hran : Ran now db (event.batch todos) done)
    (hkind : event.kind ∉ [.markTodo, .buildFailed, .unmergeable])
    (hnew : ∀ op, event.revision? = some op → ∀ todo ∈ todos, ∀ id,
      op.affects (TodoRow.ofNew id now todo) = false) :
    ∀ op ∈ event.batch todos, Ledger.Settled (refresh done.touched done.database) op := by
  intro op hop
  rcases List.mem_append.1 hop with hop | hop
  · have hrevision : event.revision? = some op := Option.mem_toList.1 hop
    obtain ⟨hpermitted, haffects⟩ := not_affects_of_batch hran hrevision (hnew op hrevision)
    have hafter := permitted_of_batch hdb htodos hran hrevision hpermitted
    exact Ledger.settled_revision ((hdb.run hran).refresh _)
      (Event.isRevision_of_revision? hrevision) hafter haffects
  · obtain ⟨todo, htodo, rfl⟩ := List.mem_map.1 hop
    have haction := mem_conflicts_of_mayGive (htodos todo htodo) hkind
    refine Ledger.settled_upsert ?_
    rcases ran_batch_cases hran with ⟨_, hran⟩ | ⟨_, _, last, _, _, hlast, rfl⟩
    · exact hran.any_blocks_of_upserts htodo haction
    · exact (hlast.any_blocks_of_upserts htodo haction :)

namespace Service

variable {σ : Type}

/-! ### The same event again -/

/-- What settled ops amount to. -/
theorem outcomeOf_idle (ops : List Op) : outcomeOf (ops.map Op.idle) = {} := by
  induction ops with
  | nil => rfl
  | cons op rest ih =>
    rw [List.map_cons, ← ih]
    cases op <;> simp [outcomeOf, Op.idle]

/-- **With the built-in collaborators an event asks for the same ops after a batch.** -/
theorem gather_builtIn {n : Type → Type} [Monad n] (settings : Settings) (event : Event)
    (hran : Ran now db ops done) :
    gather (Collaborators.builtIn settings : Collaborators n) settings event
        (refresh done.touched done.database) =
      gather (Collaborators.builtIn settings : Collaborators n) settings event db := by
  have hwitnesses : (Collaborators.builtIn settings : Collaborators n).witnesses
      (refresh done.touched done.database) =
        (Collaborators.builtIn settings : Collaborators n).witnesses db := by
    have hsees := funext fun user => funext fun target => hran.canSee_refresh user target
    simp only [Collaborators.witnesses, Collaborators.builtIn, Database.userIds?, hran.userId?_refresh,
      hsees]
  rw [gather, hwitnesses]
  rfl

/-- The acting user of a note is none of those whom it mentions. -/
def SparesActor (w : Witnesses (StateM σ)) (note : Note) (user : UserId) : Prop :=
  note.canCreateTodo = true → ∀ world recipients,
    ((Recipient.ofMentions w ⟨note.body, none⟩ [] note.noteable).run.run world).1 = .ok recipients →
      user ∉ recipients.map (·.userId)

/-- A note that spares its acting user gives them no to-do. -/
theorem gives_planNewNote_of_sparesActor {w : Witnesses (StateM σ)} {note : Note} {user : UserId}
    (h : SparesActor w note user) :
    Gives (planNewNote w note user) fun ops => ∀ todo, .upsert todo ∈ ops → todo.userId ≠ user := by
  unfold planNewNote
  split
  · exact .pure (by simp)
  · next hcreates =>
    refine .of_validated (.bind (.self _) fun recipients hrecipients => .pure fun todo htodo => ?_)
    obtain ⟨world, hrecipients⟩ := hrecipients
    have hspared := h (by simpa using hcreates) world recipients hrecipients
    rcases List.mem_cons.1 htodo with htodo | htodo
    · cases htodo
    · obtain ⟨recipient, hrecipient, htodo⟩ := List.mem_map.1 htodo
      cases htodo
      exact fun heq => hspared (List.mem_map.2 ⟨recipient, hrecipient, heq⟩)

/-- The revision of an event affects no to-do that the event gives, unless it is a note whose acting
user gets one. -/
theorem not_affects_of_mayGive (htodos : ∀ todo ∈ todos, event.MayGive todo)
    (hspared : ∀ note user, event = .newNote note user → ∀ todo ∈ todos, todo.userId ≠ user)
    (hrevision : event.revision? = some op) {todo : NewTodo} (htodo : todo ∈ todos) (id : Int64) :
    op.affects (TodoRow.ofNew id now todo) = false := by
  cases event with
  | newNote note user =>
    rw [Event.revision?] at hrevision
    split at hrevision <;> cases hrevision
    have hother : ¬(TodoRow.ofNew id now todo).belongsTo user = true := by
      rw [TodoRow.belongsTo_ofNew]
      exact hspared note user rfl todo htodo
    rw [Bool.not_eq_true] at hother
    simp [Op.affects, hother]
  | newIssue | updateIssue | reopenIssue | newMergeRequest | updateMergeRequest |
    reopenMergeRequest | reassigned | buildFailed | unmergeable | updateNote | markTodo =>
    cases hrevision
  | _ =>
    rw [Event.eq_nil_of_actions rfl htodos] at htodo
    cases htodo

/-- An event whose ops are settled does nothing. -/
theorem handle_of_settled {c : Collaborators (StateM σ)} {settings : Settings} {s : State}
    {world : σ} (now : Int64)
    (hgather : ((gather c settings event s.database).run.run world).1 = .ok ops)
    (hsettled : ∀ op ∈ ops, Ledger.Settled s.database op) :
    ((handle c settings now event s).run world).1.1 = .ok {} ∧
      ((handle c settings now event s).run world).1.2.database = s.database := by
  have hdone := conclude_of_apply now (Ledger.apply_of_settled now hsettled)
  rw [run_handle, hgather, hdone, report]
  exact ⟨congrArg Except.ok (outcomeOf_idle ops), rfl⟩

/-- **An event that is handled again does nothing.** The built-in collaborators answer as before,
and all that the event asks for is settled. -/
theorem handle_again (calls : List Call) (settings : Settings) (c : Collaborators (StateM Unit))
    (hc : c = .builtIn settings) (now later : Int64) (event : Event) (outcome : Outcome)
    (hkind : event.kind ∉ [.markTodo, .buildFailed, .unmergeable])
    (hspared : ∀ note user, event = .newNote note user →
      SparesActor (c.witnesses (State.after calls).database) note user)
    (hok : ((handle c settings now event (State.after calls)).run ()).1.1 = .ok outcome) :
    let first := ((handle c settings now event (State.after calls)).run ()).1.2
    let again := ((handle c settings later event first).run ()).1
    again.1 = .ok {} ∧ again.2.database = first.database := by
  intro first again
  have hdb := wellFormed_after calls
  obtain ⟨ops, done, hops, hran, hfirst, _⟩ := exists_gather_of_handle hok
  obtain ⟨todos, rfl, htodos⟩ := gives_gather c settings event _ () ops hops
  have hothers : ∀ note user, event = .newNote note user → ∀ todo ∈ todos, todo.userId ≠ user := by
    rintro note user rfl todo htodo
    have hgives : Gives (gather c settings (.newNote note user) (State.after calls).database) _ :=
      .gather (gives_planNewNote_of_sparesActor (hspared note user rfl))
    exact hgives () _ hops todo (List.mem_append_right _ (List.mem_map_of_mem htodo))
  have hsettled := settled_batch hdb htodos hran hkind fun op hrevision todo htodo id =>
    not_affects_of_mayGive htodos hothers hrevision htodo id
  rw [← hfirst] at hsettled
  refine handle_of_settled later ?_ hsettled
  rw [hfirst, hc, gather_builtIn settings event hran, ← hc]
  exact hops

/-- Ada comments on her issue, and mentions bob; then she does so again. -/
theorem handle_again_newNote :
    let c : Collaborators (StateM Unit) := .builtIn {}
    let issue : Issue := { id := 5, projectId := 1, authorId := 2, assignees := [1] }
    let calls : List Call := [.createUser "ada" false, .createUser "bob" false,
      .createProject "engine" .everyone false, .handle ⟨Unit, c, ()⟩ {} 7 (.newIssue issue 2)]
    let event : Event := .newNote ⟨1, 1, "see @bob", false, .issue issue⟩ 1
    ((handle c {} 8 event (State.after calls)).run ()).1.1 = .ok ⟨[2], [1], []⟩ ∧
      ((handle c {} 9 event ((handle c {} 8 event (State.after calls)).run ()).1.2).run ()).1.1 =
        .ok {} := by
  intro c issue calls event
  have hok : ((handle c {} 8 event (State.after calls)).run ()).1.1 = .ok ⟨[2], [1], []⟩ := by
    decide +kernel
  have hspared : ∀ note user, event = .newNote note user →
      SparesActor (c.witnesses (State.after calls).database) note user := by
    intro note user hevent _ world recipients hrecipients
    obtain ⟨rfl, rfl⟩ := Event.newNote.inj hevent
    have hfound : ((Recipient.ofMentions (c.witnesses (State.after calls).database)
        ⟨"see @bob", none⟩ [] (.issue issue)).run.run ()).1 = .ok [⟨2, .mentioned⟩] := by
      decide +kernel
    rw [hfound] at hrecipients
    cases hrecipients
    decide
  obtain ⟨hagain, _⟩ := handle_again calls {} c rfl 8 9 event _ (by decide) hspared hok
  exact ⟨hok, hagain⟩

end Service

end TodoLedger
