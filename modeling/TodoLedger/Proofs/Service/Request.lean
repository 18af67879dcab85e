import TodoLedger.Proofs.Ledger.Lookup
import TodoLedger.Proofs.Service.Phases

/-!
# What an event asks of the ledger

* `Gives x P`: whatever `x` gives, in whatever world, has the property `P`.
* An event changes to-dos that are there with one op at most, its `Event.revision?`, and gives new
  ones for a few reasons, its `Event.actions`.
* **An event asks for its revision, and then for new to-dos** (`gives_plan`), so an event that
  succeeds ran just that (`exists_ran_of_handle`).
* A row stays as it is in all this, or the revision rewrites it (`row_of_batch`).
-/

namespace TodoLedger

open Ledger (Op Change Run Stepped Ran refresh)

/-! ### Revisions and new to-dos -/

namespace Event

/-- The op with which the event changes to-dos that are there. -/
def revision? : Event → Option Op
  | .closeIssue issue _ => some (.resolveForTarget (Target.issue issue).reference none none)
  | .closeMergeRequest mr _ | .mergeMergeRequest mr _ =>
    some (.resolveForTarget (Target.mergeRequest mr).reference none none)
  | .push mr user =>
    some (.resolveForTarget (Target.mergeRequest mr).reference (some user) (some .buildFailed))
  | .awardEmoji target user | .resolveTodosForTarget target user =>
    some (.resolveForTarget target.reference (some user) none)
  | .newNote note user =>
    if note.canCreateTodo then some (.resolveForTarget note.noteable.reference (some user) none)
    else none
  | .targetDestroyed target => some (.purgeTarget target.reference)
  | .resolveTodos ids user resolution =>
    if ids.isEmpty then none else some (.resolveCollection ids user resolution)
  | .restoreTodos ids user => if ids.isEmpty then none else some (.restoreCollection ids user)
  | .markAllDone user => some (.resolveAllForUser user .markAllDone)
  | .newIssue .. | .updateIssue .. | .reopenIssue .. | .newMergeRequest .. | .updateMergeRequest ..
  | .reopenMergeRequest .. | .reassigned .. | .buildFailed _ | .unmergeable _ | .updateNote ..
  | .markTodo .. => none

/-- The reasons for which the event gives new to-dos. -/
def actions : Event → List Action
  | .newIssue .. | .newMergeRequest .. => [.assigned, .mentioned, .directlyAddressed]
  | .updateIssue .. | .updateMergeRequest .. | .newNote .. | .updateNote .. =>
    [.mentioned, .directlyAddressed]
  | .reassigned .. => [.assigned]
  | .buildFailed _ => [.buildFailed]
  | .unmergeable _ => [.unmergeable]
  | .markTodo .. => [.marked]
  | .closeIssue .. | .reopenIssue .. | .closeMergeRequest .. | .reopenMergeRequest ..
  | .mergeMergeRequest .. | .push .. | .awardEmoji .. | .resolveTodosForTarget ..
  | .targetDestroyed _ | .resolveTodos .. | .restoreTodos .. | .markAllDone _ => []

/-- The event may give the to-do, which goes to the acting user if they ask for it themselves. -/
structure MayGive (event : Event) (todo : NewTodo) : Prop where
  action : todo.action ∈ event.actions
  own : event.kind = .markTodo → event.actor? = some todo.userId

/-- The ops of the event if it gives these to-dos. -/
def batch (event : Event) (todos : List NewTodo) : List Op :=
  event.revision?.toList ++ todos.map .upsert

/-- The ops are the event's revision, and then new to-dos that it may give. -/
def AsksFor (event : Event) (ops : List Op) : Prop :=
  ∃ todos, ops = event.batch todos ∧ ∀ todo ∈ todos, event.MayGive todo

/-- A revision puts in no to-do. -/
theorem isRevision_of_revision? {event : Event} {op : Op} (h : event.revision? = some op) :
    op.isRevision = true := by
  cases event with
  | newNote | resolveTodos | restoreTodos =>
    rw [revision?] at h
    split at h <;> cases h
    rfl
  | _ => cases h <;> rfl

/-- Only the destruction of a target deletes to-dos. -/
theorem eq_of_revision?_purges {event : Event} {reference : TargetRef}
    (h : event.revision? = some (.purgeTarget reference)) :
    ∃ target, event = .targetDestroyed target ∧ reference = target.reference := by
  cases event with
  | targetDestroyed target =>
    cases h
    exact ⟨target, rfl, rfl⟩
  | newNote | resolveTodos | restoreTodos =>
    rw [revision?] at h
    split at h <;> cases h
  | _ => cases h

/-- An event without reasons for new to-dos gives none. -/
theorem eq_nil_of_actions {event : Event} {todos : List NewTodo} (hactions : event.actions = [])
    (h : ∀ todo ∈ todos, event.MayGive todo) : todos = [] := by
  refine List.eq_nil_iff_forall_not_mem.2 fun todo htodo => ?_
  have haction := (h todo htodo).action
  rw [hactions] at haction
  cases haction

end Event

/-! ### What becomes of a row -/

section Rows

variable {now : Int64} {db : Database} {event : Event} {todos : List NewTodo} {done : Run}

/-- A batch that ran put in new to-dos, after a step that is the revision of the event, if there is
one. -/
theorem ran_batch_cases (hran : Ran now db (event.batch todos) done) :
    (event.revision? = none ∧ Ran now db (todos.map .upsert) done) ∨
      ∃ op change last, event.revision? = some op ∧ Stepped now db op change ∧
        Ran now change.database (todos.map .upsert) last ∧
        done = ⟨last.database, change.effect :: last.effects, change.touched ++ last.touched⟩ := by
  rw [Event.batch] at hran
  cases hrevision : event.revision? with
  | none =>
    rw [hrevision] at hran
    exact .inl ⟨rfl, hran⟩
  | some op =>
    rw [hrevision] at hran
    cases hran with
    | @cons _ _ change _ last hstep hrest =>
      exact .inr ⟨op, change, last, rfl, hstep, hrest, rfl⟩

/-- **A row stays in the batch of an event, or the event's revision rewrites it.** -/
theorem row_of_batch (hdb : WellFormed db) (htodos : ∀ todo ∈ todos, event.MayGive todo)
    (hran : Ran now db (event.batch todos) done) {id : TodoId} {row : TodoRow}
    (hrow : db.todoRow? id = some row) :
    done.database.todoRow? id = some row ∨ ∃ op, event.revision? = some op ∧ op.Permitted db ∧
      op.affects row = true ∧ done.database.todoRow? id = op.rewrite now row := by
  rcases ran_batch_cases hran with ⟨_, hran⟩ | ⟨op, change, last, hrevision, hstep, hlast, rfl⟩
  · exact .inl (todoRow?_of_upserts hran hrow)
  · have hrevised : change.database.todoRow? id = op.revise now row := by
      rw [hstep.eq_revised (Event.isRevision_of_revision? hrevision),
        todoRow?_revised now op hdb.todos, hrow, Option.bind_some]
    have hkept {row' : TodoRow} (h : change.database.todoRow? id = some row') :
        last.database.todoRow? id = some row' := todoRow?_of_upserts hlast h
    by_cases haffects : op.affects row = true
    · refine .inr ⟨op, hrevision, hstep.permitted, haffects, ?_⟩
      rw [Op.revise, if_pos haffects] at hrevised
      cases hrewrite : op.rewrite now row with
      | some row' => exact hkept (hrevised.trans hrewrite)
      | none =>
        -- A new to-do could get the id of the one that is deleted, but there is none.
        obtain ⟨reference, rfl⟩ := Op.eq_of_rewrite_none hrewrite
        obtain ⟨target, rfl, _⟩ := Event.eq_of_revision?_purges hrevision
        cases Event.eq_nil_of_actions rfl htodos
        cases hlast
        exact hrevised
    · rw [Op.revise, if_neg haffects] at hrevised
      exact .inl (hkept hrevised)

end Rows

namespace Service

variable {σ α β : Type}

/-! ### What computations give -/

/-- Whatever is given has the property. -/
def Gives (x : ExceptT Error (StateM σ) α) (P : α → Prop) : Prop :=
  ∀ world a, (x.run.run world).1 = .ok a → P a

namespace Gives

variable {x : ExceptT Error (StateM σ) α} {P : α → Prop}

/-- What is given at once. -/
theorem pure {a : α} (h : P a) : Gives (Pure.pure a : ExceptT Error (StateM σ) α) P := by
  rintro world b ⟨⟩
  exact h

/-- A failure gives nothing. -/
theorem throw (error : Error) :
    Gives (MonadExcept.throw error : ExceptT Error (StateM σ) α) P := by
  rintro world b ⟨⟩

/-- What is given is given in some world. -/
theorem self (x : ExceptT Error (StateM σ) α) :
    Gives x fun a => ∃ world, (x.run.run world).1 = .ok a :=
  fun world _ h => ⟨world, h⟩

/-- What is done one after the other gives what the second gives, with what the first gave. -/
theorem bind {Q : β → Prop} {f : α → ExceptT Error (StateM σ) β} (h : Gives x P)
    (hf : ∀ a, P a → Gives (f a) Q) : Gives (x >>= f) Q := by
  intro world b hb
  rw [run_run_bind] at hb
  generalize hx : x.run.run world = answer at hb
  obtain ⟨_ | a, between⟩ := answer
  · cases hb
  · exact hf a (h world a (by rw [hx])) between b hb

end Gives

/-! ### Recipients -/

section Recipients

variable (w : Witnesses (StateM σ)) (target : Target)

/-- Users who all receive a to-do for the same reason. -/
theorem gives_ofUsers (action : Action) (users : List UserId) :
    Gives (Recipient.ofUsers w action users target) fun recipients =>
      ∀ recipient ∈ recipients, recipient.action = action := by
  refine .bind (.self _) fun seers _ => .pure fun recipient hrecipient => ?_
  obtain ⟨user, _, rfl⟩ := List.mem_map.1 hrecipient
  rfl

/-- Users to whom a text refers are mentioned or addressed. -/
theorem gives_ofText (current : String) (skip : List UserId) :
    Gives (Recipient.ofText w current skip target) fun recipients =>
      ∀ recipient ∈ recipients, recipient.action ∈ [.mentioned, .directlyAddressed] := by
  refine .bind (.self _) fun mentions _ => ?_
  refine .bind (.self _) fun seers _ => .pure fun recipient hrecipient => ?_
  obtain ⟨user, _, rfl⟩ := List.mem_map.1 hrecipient
  rw [Recipient.mentionAction]
  split <;> simp

/-- Users whom a text mentions are mentioned or addressed. -/
theorem gives_ofMentions (change : TextChange) (skip : List UserId) :
    Gives (Recipient.ofMentions w change skip target) fun recipients =>
      ∀ recipient ∈ recipients, recipient.action ∈ [.mentioned, .directlyAddressed] := by
  obtain ⟨current, previous⟩ := change
  cases previous with
  | none => exact gives_ofText w target current skip
  | some previous =>
    simp only [Recipient.ofMentions]
    split
    · exact .pure (by simp)
    · exact .bind (.self _) fun before _ => gives_ofText w target current _

end Recipients

/-- The ops that give recipients a to-do each put in their new to-dos. -/
theorem upserts_eq (target : Target) (author : UserId) (noteId : Option UInt64)
    (recipients : List Recipient) : upserts target author noteId recipients =
      (recipients.map (newTodo target author noteId)).map .upsert := by
  rw [upserts, List.map_map]
  rfl

/-! ### Events -/

section Plan

variable (w : Witnesses (StateM σ)) (settings : Settings) {event : Event} {target : Target}

/-- An event without a revision may ask for to-dos for recipients. -/
theorem asksFor_upserts (hrevision : event.revision? = none) (hkind : event.kind ≠ .markTodo)
    (author : UserId) (noteId : Option UInt64) {recipients : List Recipient}
    (h : ∀ recipient ∈ recipients, recipient.action ∈ event.actions) :
    event.AsksFor (upserts target author noteId recipients) := by
  refine ⟨recipients.map (newTodo target author noteId), ?_, ?_⟩
  · rw [Event.batch, hrevision, upserts_eq]
    rfl
  · intro todo htodo
    obtain ⟨recipient, hrecipient, rfl⟩ := List.mem_map.1 htodo
    exact ⟨h recipient hrecipient, fun hmark => absurd hmark hkind⟩

/-- An event may ask for its revision alone. -/
theorem asksFor_revision (event : Event) : event.AsksFor event.revision?.toList :=
  ⟨[], by simp [Event.batch], by simp⟩

/-- What follows a check of the target. -/
theorem Gives.of_validated {x : ExceptT Error (StateM σ) α} {P : α → Prop} (h : Gives x P) :
    Gives (do validated target; x) P := by
  refine .bind (.self _) fun _ _ => h

/-- For a new target. -/
theorem gives_planNew (user : UserId) (hrevision : event.revision? = none)
    (hactions : event.actions = [.assigned, .mentioned, .directlyAddressed])
    (hkind : event.kind ≠ .markTodo) :
    Gives (planNew w settings target user) event.AsksFor := by
  refine .of_validated ?_
  refine .bind (gives_ofUsers w target .assigned _) fun assigned hassigned => ?_
  refine .bind (gives_ofMentions w target _ _) fun mentioned hmentioned => .pure ?_
  refine asksFor_upserts hrevision hkind user none fun recipient hrecipient => ?_
  rw [hactions]
  rcases List.mem_append.1 hrecipient with hrecipient | hrecipient
  · rw [hassigned recipient hrecipient]
    exact List.mem_cons_self
  · exact List.mem_cons_of_mem _ (hmentioned recipient hrecipient)

/-- For an edited target. -/
theorem gives_planUpdate (user : UserId) (previous : Option String) (skip : List UserId)
    (hrevision : event.revision? = none)
    (hactions : event.actions = [.mentioned, .directlyAddressed])
    (hkind : event.kind ≠ .markTodo) :
    Gives (planUpdate w target user previous skip) event.AsksFor := by
  refine .of_validated ?_
  refine .bind (gives_ofMentions w target _ _) fun mentioned hmentioned => .pure ?_
  exact asksFor_upserts hrevision hkind user none (hactions ▸ hmentioned)

/-- For to-dos on the target that become done. -/
theorem gives_planResolve {user : Option UserId} {action : Option Action}
    (hrevision : event.revision? = some (.resolveForTarget target.reference user action)) :
    Gives (planResolve target user action : ExceptT Error (StateM σ) (List Op)) event.AsksFor := by
  refine .of_validated (.pure ?_)
  have hasks := asksFor_revision event
  rw [hrevision] at hasks
  exact hasks

/-- For trouble with a merge request. -/
theorem gives_planParticipants {action : Action} (hrevision : event.revision? = none)
    (hactions : event.actions = [action]) (hkind : event.kind ≠ .markTodo) :
    Gives (planParticipants w target action) event.AsksFor := by
  refine .of_validated ?_
  refine .bind (gives_ofUsers w target action _) fun recipients hrecipients => .pure ?_
  refine ⟨recipients.map fun recipient => newTodo target recipient.userId none recipient, ?_, ?_⟩
  · rw [Event.batch, hrevision, List.map_map, ← List.flatMap_pure_eq_map]
    rfl
  · intro todo htodo
    obtain ⟨recipient, hrecipient, rfl⟩ := List.mem_map.1 htodo
    refine ⟨?_, fun hmark => absurd hmark hkind⟩
    rw [hactions, List.mem_singleton]
    exact hrecipients recipient hrecipient

/-- For a new note. -/
theorem gives_planNewNote (note : Note) (user : UserId) :
    Gives (planNewNote w note user) (Event.newNote note user).AsksFor := by
  unfold planNewNote
  split
  · next hnone =>
    refine .pure ⟨[], ?_, by simp⟩
    rw [Event.batch, Event.revision?, if_neg (by simpa using hnone)]
    rfl
  · next hsome =>
    refine .of_validated (.bind (gives_ofMentions w _ _ _) fun mentioned hmentioned => .pure ?_)
    refine ⟨mentioned.map (newTodo note.noteable user note.id), ?_, ?_⟩
    · rw [Event.batch, Event.revision?, if_pos (by simpa using hsome), upserts_eq]
      rfl
    · intro todo htodo
      obtain ⟨recipient, hrecipient, rfl⟩ := List.mem_map.1 htodo
      exact ⟨hmentioned recipient hrecipient, by rintro ⟨⟩⟩

/-- For an edited note. -/
theorem gives_planUpdateNote (note : Note) (user : UserId) (previous : Option String)
    (skip : List UserId) :
    Gives (planUpdateNote w note user previous skip)
      (Event.updateNote note user previous skip).AsksFor := by
  unfold planUpdateNote
  split
  · exact .pure (asksFor_revision (.updateNote note user previous skip))
  · refine .of_validated (.bind (gives_ofMentions w _ _ _) fun mentioned hmentioned => .pure ?_)
    exact asksFor_upserts rfl (by rintro ⟨⟩) user _ hmentioned

/-- For a user's own request. -/
theorem gives_planMark (target : Target) (user : UserId) :
    Gives (planMark w target user) (Event.markTodo target user).AsksFor := by
  refine .of_validated ?_
  split
  · exact .pure (asksFor_revision (.markTodo target user))
  · refine .bind (.self _) fun sees _ => ?_
    cases sees with
    | false => exact .pure (asksFor_revision (.markTodo target user))
    | true =>
      refine .pure ⟨[newTodo target user none ⟨user, .marked⟩], rfl, fun todo htodo => ?_⟩
      rw [List.mem_singleton] at htodo
      subst htodo
      exact ⟨List.mem_singleton_self _, fun _ => rfl⟩

/-- **An event asks for its revision, and then for new to-dos that it may give.** -/
theorem gives_plan (event : Event) : Gives (plan w settings event) event.AsksFor := by
  cases event with
  | newIssue | newMergeRequest => exact gives_planNew w settings _ rfl rfl (by rintro ⟨⟩)
  | updateIssue | updateMergeRequest => exact gives_planUpdate w _ _ _ rfl rfl (by rintro ⟨⟩)
  | closeIssue | closeMergeRequest | mergeMergeRequest | push | awardEmoji |
    resolveTodosForTarget => exact gives_planResolve rfl
  | reopenIssue issue user =>
    exact .of_validated (.pure (asksFor_revision (.reopenIssue issue user)))
  | reopenMergeRequest mr user =>
    exact .of_validated (.pure (asksFor_revision (.reopenMergeRequest mr user)))
  | reassigned =>
    refine .of_validated (.bind (gives_ofUsers w _ .assigned _) fun assigned hassigned => .pure ?_)
    refine asksFor_upserts rfl (by rintro ⟨⟩) _ none fun recipient hrecipient => ?_
    exact List.mem_singleton.2 (hassigned recipient hrecipient)
  | buildFailed | unmergeable => exact gives_planParticipants w rfl rfl (by rintro ⟨⟩)
  | newNote note user => exact gives_planNewNote w note user
  | updateNote note user previous skip => exact gives_planUpdateNote w note user previous skip
  | markTodo target user => exact gives_planMark w target user
  | targetDestroyed target => exact .pure (asksFor_revision (.targetDestroyed target))
  | resolveTodos ids user resolution =>
    have hasks := asksFor_revision (.resolveTodos ids user resolution)
    rw [Event.revision?] at hasks
    refine .pure ?_
    split <;> simpa [*] using hasks
  | restoreTodos ids user =>
    have hasks := asksFor_revision (.restoreTodos ids user)
    rw [Event.revision?] at hasks
    refine .pure ?_
    split <;> simpa [*] using hasks
  | markAllDone user => exact .pure (asksFor_revision (.markAllDone user))

end Plan

section Handle

variable {c : Collaborators (StateM σ)} {settings : Settings} {now : Int64} {event : Event}
  {s : State} {world : σ} {outcome : Outcome}

/-- What is planned is gathered. -/
theorem Gives.gather {db : Database} {P : List Op → Prop}
    (h : Gives (plan (c.witnesses db) settings event) P) :
    Gives (Service.gather c settings event db) P := by
  refine .bind h fun ops hops => ?_
  split
  · exact .bind (.self _) fun _ _ => .pure hops
  · exact .pure hops

/-- **What an event gathers is its revision, and then new to-dos that it may give.** -/
theorem gives_gather (c : Collaborators (StateM σ)) (settings : Settings) (event : Event)
    (db : Database) : Gives (gather c settings event db) event.AsksFor :=
  .gather (gives_plan (c.witnesses db) settings event)

/-- An event that succeeds ran the ops that it gathered. -/
theorem exists_gather_of_handle
    (h : ((handle c settings now event s).run world).1.1 = .ok outcome) :
    ∃ ops done, ((gather c settings event s.database).run.run world).1 = .ok ops ∧
      Ran now s.database ops done ∧
      ((handle c settings now event s).run world).1.2.database =
        refresh done.touched done.database ∧
      outcome = outcomeOf done.effects := by
  rw [run_handle] at h ⊢
  exact exists_ran_of_report now h

/-- **An event that succeeds ran its revision, and then put in new to-dos that it may give.** -/
theorem exists_ran_of_handle
    (h : ((handle c settings now event s).run world).1.1 = .ok outcome) :
    ∃ todos done, (∀ todo ∈ todos, event.MayGive todo) ∧
      Ran now s.database (event.batch todos) done ∧
      ((handle c settings now event s).run world).1.2.database =
        refresh done.touched done.database ∧
      outcome = outcomeOf done.effects := by
  obtain ⟨ops, done, hops, hran, hafter⟩ := exists_gather_of_handle h
  obtain ⟨todos, rfl, htodos⟩ := gives_gather c settings event s.database world ops hops
  exact ⟨todos, done, htodos, hran, hafter⟩

end Handle

end Service

end TodoLedger
