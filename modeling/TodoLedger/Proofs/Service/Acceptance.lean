import TodoLedger.Proofs.Ledger.Progress
import TodoLedger.Proofs.Reading
import TodoLedger.Proofs.Service.BuiltIn
import TodoLedger.Proofs.Service.Disclosure
import TodoLedger.Proofs.Service.History
import TodoLedger.Proofs.Service.Request

/-!
# Events that succeed

* `Event.IsGrounded`: who acts in an event exists, its target is valid and in a project that exists,
  and the to-dos that it names are those of the acting user.
* `Succeeds x P`: whatever the world is, `x` gives something, with the property `P`.
* `Event.textChange?`: the change of a text in which an event looks for mentions.
* The built-in collaborators answer if no text has too many handles (`Database.exists_canSee`,
  `succeeds_references`), and let nobody see a target who is no user, so every new to-do that an
  event asks for is admitted (`succeeds_plan`).
* **With the built-in collaborators a grounded event succeeds after all calls** (`handle_succeeds`),
  as long as its texts have not too many handles and there is room for its to-dos.
-/

namespace TodoLedger

open Ledger (Op admits)

variable {db : Database} {event : Event} {target : Target}

/-! ### Answers -/

namespace Database

/-- The user exists. -/
def HasUser (db : Database) (user : UserId) : Prop := rowId user ∈ db.users.map (·.id)

/-- A user who is found exists. -/
theorem hasUser_of_user? {user : UserId} {account : User} (h : db.user? user = some account) :
    db.HasUser user := by
  obtain ⟨row, hrow, _⟩ := Option.map_eq_some_iff.1 h
  exact mem_map_of_isSome_find? (Option.isSome_iff_exists.2 ⟨row, hrow⟩)

/-- A project that is found is that of a row. -/
theorem mem_of_project? {id : ProjectId} {project : Project}
    (h : db.project? id = .ok (some project)) : rowId id ∈ db.projects.map (·.id) := by
  rw [project?] at h
  split at h
  · cases h
  · next row hrow => exact mem_map_of_isSome_find? (Option.isSome_iff_exists.2 ⟨row, hrow⟩)

/-- The levels of all members are readable. -/
theorem exists_memberLevel? (hdb : WellFormed db) (project : ProjectId) (user : UserId) :
    ∃ level, db.memberLevel? project user = .ok level := by
  rw [memberLevel?]
  cases hfound : db.members.find? (isMembership project user) with
  | none => exact ⟨none, rfl⟩
  | some row =>
    obtain ⟨level, hlevel⟩ := (hdb.memberRows row (List.mem_of_find?_eq_some hfound)).level
    have hread : row.readLevel = .ok level := by
      rw [MemberRow.readLevel, hlevel]
      cases level <;> rfl
    refine ⟨some level, ?_⟩
    simp only [hread]

/-- Whether a user sees a target is known if its project exists. -/
theorem exists_canSee (hdb : WellFormed db)
    (hproject : ∃ project, db.project? target.projectId = .ok (some project)) (user : UserId) :
    ∃ sees, db.canSee user target = .ok sees := by
  rw [canSee]
  cases db.user? user with
  | none => exact ⟨false, rfl⟩
  | some account =>
    obtain ⟨project, hproject⟩ := hproject
    obtain ⟨level, hlevel⟩ := exists_memberLevel? hdb target.projectId user
    rw [hproject]
    exact ⟨_, bind_eq_ok_iff.2 ⟨project, rfl, bind_eq_ok_iff.2 ⟨level, hlevel, rfl⟩⟩⟩

end Database

/-- A to-do that is found is that of a row of its user. -/
theorem exists_row_of_todo? {id : TodoId} {todo : Todo} (h : db.todo? id = .ok (some todo)) :
    ∃ row, db.todoRow? id = some row ∧ row.belongsTo todo.userId = true := by
  rw [Database.todo?] at h
  split at h
  · cases h
  · next row hrow =>
    split at h
    · next found hread =>
      cases h
      exact ⟨row, hrow, decide_eq_true (TodoRow.shows_of_read hread).userId⟩
    · cases h

/-! ### Grounded events -/

/-- The target is valid, and its project exists. -/
structure Target.IsGrounded (target : Target) (db : Database) : Prop where
  valid : target.validate = .ok ()
  project : ∃ project, db.project? target.projectId = .ok (some project)

/-- The change of a text in which an event looks for mentions. -/
def Event.textChange? : Event → Option TextChange
  | .newIssue issue _ => some ⟨(Target.issue issue).text, none⟩
  | .newMergeRequest mr _ => some ⟨(Target.mergeRequest mr).text, none⟩
  | .updateIssue issue _ previous _ => some ⟨(Target.issue issue).text, previous⟩
  | .updateMergeRequest mr _ previous _ => some ⟨(Target.mergeRequest mr).text, previous⟩
  | .newNote note _ => some ⟨note.body, none⟩
  | .updateNote note _ previous _ => some ⟨note.body, previous⟩
  | _ => none

/-- The ids by which an event names to-dos. -/
def Event.todoIds : Event → List TodoId
  | .resolveTodos ids _ _ | .restoreTodos ids _ => ids
  | _ => []

/-- Who acts exists, the target is valid and in a project that exists, and the to-dos that are named
are those of the acting user. -/
structure Event.IsGrounded (event : Event) (db : Database) : Prop where
  actor : ∀ user, event.actor? = some user → ∃ account, db.user? user = some account
  target : ∀ target, event.target? = some target → target.IsGrounded db
  todos : ∀ id ∈ event.todoIds, ∃ todo, db.todo? id = .ok (some todo) ∧
    event.actor? = some todo.userId

/-- The revision of a grounded event is permitted. -/
theorem Event.IsGrounded.permitted (h : event.IsGrounded db) (hdb : WellFormed db) {op : Op}
    (hop : event.revision? = some op) : op.Permitted db := by
  have hnamed {ids : List TodoId} {user : UserId} (hids : event.todoIds = ids)
      (hactor : event.actor? = some user) : ∀ id ∈ ids, Ledger.refusal? db user id = none := by
    intro id hid
    obtain ⟨todo, htodo, howner⟩ := h.todos id (hids ▸ hid)
    obtain ⟨row, hrow, hbelongs⟩ := exists_row_of_todo? htodo
    rw [hactor, Option.some.injEq] at howner
    exact (refusal?_eq_none_iff hdb.todos).2 ⟨row, hrow, howner ▸ hbelongs⟩
  cases event with
  | resolveTodos ids user | restoreTodos ids user =>
    rw [revision?] at hop
    split at hop <;> cases hop
    exact hnamed rfl rfl
  | newNote =>
    rw [revision?] at hop
    split at hop <;> cases hop
    trivial
  | _ => cases hop <;> trivial

namespace Service

variable {σ α β : Type}

/-! ### Computations that succeed -/

/-- Whatever the world is, something is given, and has the property. -/
def Succeeds (x : ExceptT Error (StateM σ) α) (P : α → Prop) : Prop :=
  ∀ world, ∃ a, (x.run.run world).1 = .ok a ∧ P a

namespace Succeeds

variable {x : ExceptT Error (StateM σ) α} {P : α → Prop}

/-- What is given at once. -/
theorem pure {a : α} (h : P a) : Succeeds (Pure.pure a : ExceptT Error (StateM σ) α) P :=
  fun _ => ⟨a, rfl, h⟩

/-- What is done one after the other succeeds if the first does, and the second with what it
gives. -/
theorem bind {Q : β → Prop} {f : α → ExceptT Error (StateM σ) β} (h : Succeeds x P)
    (hf : ∀ a, P a → Succeeds (f a) Q) : Succeeds (x >>= f) Q := by
  intro world
  obtain ⟨a, ha, hP⟩ := h world
  rw [run_run_bind]
  generalize x.run.run world = answer at ha
  obtain ⟨_, between⟩ := answer
  cases ha
  exact hf a hP between

end Succeeds

/-! ### Recipients -/

section Recipients

variable {settings : Settings}

/-- The built-in collaborators with which recipients are found. -/
abbrev builtInWitnesses (σ : Type) (settings : Settings) (db : Database) : Witnesses (StateM σ) :=
  (Collaborators.builtIn settings).witnesses db

/-- All recipients exist. -/
def AllExist (db : Database) (recipients : List Recipient) : Prop :=
  ∀ recipient ∈ recipients, db.HasUser recipient.userId

/-- It is known to whom a text with not too many handles refers. -/
theorem succeeds_references (db : Database) {text : String} (h : settings.Resolves text) :
    Succeeds ((builtInWitnesses σ settings db).references text) fun _ => True := by
  rw [references_of_resolves h]
  exact .pure trivial

variable (hdb : WellFormed db)
  (hproject : ∃ project, db.project? target.projectId = .ok (some project))

include hdb hproject

/-- It is known who sees the target, and nobody does who is no user. -/
theorem succeeds_sees (user : UserId) :
    Succeeds ((builtInWitnesses σ settings db).sees target user)
      fun sees => sees = true → db.HasUser user := by
  intro world
  obtain ⟨sees, hsees⟩ := Database.exists_canSee hdb hproject user
  refine ⟨sees, ?_, ?_⟩
  · change (db.canSee user target).mapError Error.visibility = .ok sees
    rw [hsees]
    rfl
  · rintro rfl
    obtain ⟨account, _, _, haccount, _⟩ := canRead_of_canSee hsees
    exact Database.hasUser_of_user? haccount

/-- Those among users who see the target exist. -/
theorem succeeds_seers (users : List UserId) :
    Succeeds ((builtInWitnesses σ settings db).seers target users)
      fun seers => ∀ user ∈ seers, db.HasUser user := by
  induction users with
  | nil => exact .pure (by simp)
  | cons user rest ih =>
    refine .bind (succeeds_sees hdb hproject user) fun sees hsees => ?_
    refine .bind ih fun others hothers => .pure ?_
    cases sees with
    | false => exact hothers
    | true => exact List.forall_mem_cons.2 ⟨hsees rfl, hothers⟩

/-- Users who all receive a to-do for the same reason exist. -/
theorem succeeds_ofUsers (action : Action) (users : List UserId) :
    Succeeds (Recipient.ofUsers (builtInWitnesses σ settings db) action users target)
      (AllExist db) := by
  refine .bind (succeeds_seers hdb hproject _) fun seers hseers => .pure ?_
  intro recipient hrecipient
  obtain ⟨user, huser, rfl⟩ := List.mem_map.1 hrecipient
  exact hseers user huser

/-- Recipients to whom a text refers exist. -/
theorem succeeds_ofText {current : String} (hcurrent : settings.Resolves current)
    (skip : List UserId) :
    Succeeds (Recipient.ofText (builtInWitnesses σ settings db) current skip target)
      (AllExist db) := by
  refine .bind (succeeds_references db hcurrent) fun mentions _ => ?_
  refine .bind (succeeds_seers hdb hproject _) fun seers hseers => .pure ?_
  intro recipient hrecipient
  obtain ⟨user, huser, rfl⟩ := List.mem_map.1 hrecipient
  exact hseers user huser

/-- Recipients whom a text mentions exist. -/
theorem succeeds_ofMentions {change : TextChange} (htaken : settings.Takes change)
    (skip : List UserId) :
    Succeeds (Recipient.ofMentions (builtInWitnesses σ settings db) change skip target)
      (AllExist db) := by
  obtain ⟨current, previous⟩ := change
  cases previous with
  | none => exact succeeds_ofText hdb hproject (Settings.takes_new_iff.1 htaken) skip
  | some previous =>
    simp only [Recipient.ofMentions]
    split
    · exact .pure (List.forall_mem_nil _)
    · next hedited =>
      obtain ⟨hprevious, hcurrent⟩ := (Settings.takes_edited_iff.1 htaken).resolve_left hedited
      refine .bind (succeeds_references db hprevious) fun before _ => ?_
      exact succeeds_ofText hdb hproject hcurrent _

end Recipients

/-! ### Events -/

/-- All new to-dos among the ops are admitted. -/
def AllAdmitted (db : Database) (ops : List Op) : Prop :=
  ∀ todo, .upsert todo ∈ ops → admits db todo = true

section Plan

variable {settings : Settings} (hdb : WellFormed db) (htarget : target.IsGrounded db)

/-- An op that puts in nothing needs nobody's admission. -/
theorem allAdmitted_singleton {op : Op} (hop : op.isRevision = true) : AllAdmitted db [op] := by
  intro todo htodo
  rw [← List.mem_singleton.1 htodo] at hop
  cases hop

include htarget

/-- The check of a grounded target succeeds. -/
theorem Succeeds.validated {x : ExceptT Error (StateM σ) α} {P : α → Prop} (h : Succeeds x P) :
    Succeeds (do validated target; x) P := by
  rw [Service.validated, htarget.valid]
  exact .bind (P := fun _ => True) (.pure trivial) fun _ _ => h

/-- To-dos by an author who exists for recipients who exist are admitted. -/
theorem allAdmitted_upserts {author : UserId} (hauthor : db.HasUser author) (noteId : Option UInt64)
    {recipients : List Recipient} (h : AllExist db recipients) :
    AllAdmitted db (upserts target author noteId recipients) := by
  intro todo htodo
  obtain ⟨recipient, hrecipient, htodo⟩ := List.mem_map.1 htodo
  cases htodo
  obtain ⟨project, hproject⟩ := htarget.project
  exact admits_iff.2 ⟨h recipient hrecipient, hauthor, Database.mem_of_project? hproject⟩

include hdb

/-- For a new target. -/
theorem succeeds_planNew {user : UserId} (huser : db.HasUser user)
    (htaken : settings.Takes ⟨target.text, none⟩) :
    Succeeds (planNew (builtInWitnesses σ settings db) settings target user) (AllAdmitted db) := by
  refine .validated htarget ?_
  refine .bind (succeeds_ofUsers hdb htarget.project .assigned _) fun assigned hassigned => ?_
  refine .bind (succeeds_ofMentions hdb htarget.project htaken _) fun mentioned hmentioned =>
    .pure ?_
  exact allAdmitted_upserts htarget huser none (List.forall_mem_append.2 ⟨hassigned, hmentioned⟩)

/-- For an edited target. -/
theorem succeeds_planUpdate {user : UserId} (huser : db.HasUser user) {previous : Option String}
    (htaken : settings.Takes ⟨target.text, previous⟩) (skip : List UserId) :
    Succeeds (planUpdate (builtInWitnesses σ settings db) target user previous skip)
      (AllAdmitted db) := by
  refine .validated htarget ?_
  refine .bind (succeeds_ofMentions hdb htarget.project htaken _) fun mentioned hmentioned =>
    .pure ?_
  exact allAdmitted_upserts htarget huser none hmentioned

omit hdb in
/-- For to-dos on the target that become done. -/
theorem succeeds_planResolve (user : Option UserId) (action : Option Action) :
    Succeeds (planResolve target user action : ExceptT Error (StateM σ) (List Op))
      (AllAdmitted db) :=
  .validated htarget (.pure (allAdmitted_singleton rfl))

omit hdb in
/-- For a target that is worked on again. -/
theorem succeeds_planReopen :
    Succeeds (planReopen target : ExceptT Error (StateM σ) (List Op)) (AllAdmitted db) :=
  .validated htarget (.pure fun _ htodo => absurd htodo List.not_mem_nil)

/-- For changed assignees. -/
theorem succeeds_planReassigned {user : UserId} (huser : db.HasUser user)
    (oldAssignees : List UserId) :
    Succeeds (planReassigned (builtInWitnesses σ settings db) target user oldAssignees)
      (AllAdmitted db) := by
  refine .validated htarget ?_
  refine .bind (succeeds_ofUsers hdb htarget.project .assigned _) fun assigned hassigned => .pure ?_
  exact allAdmitted_upserts htarget huser none hassigned

/-- For trouble with a merge request. -/
theorem succeeds_planParticipants (action : Action) :
    Succeeds (planParticipants (builtInWitnesses σ settings db) target action)
      (AllAdmitted db) := by
  refine .validated htarget ?_
  refine .bind (succeeds_ofUsers hdb htarget.project action _) fun recipients hrecipients =>
    .pure fun todo htodo => ?_
  obtain ⟨recipient, hrecipient, htodo⟩ := List.mem_flatMap.1 htodo
  have huser := hrecipients recipient hrecipient
  exact allAdmitted_upserts htarget huser none (List.forall_mem_singleton.2 huser) todo htodo

/-- For a user's own request. -/
theorem succeeds_planMark {user : UserId} (huser : db.HasUser user) :
    Succeeds (planMark (builtInWitnesses σ settings db) target user) (AllAdmitted db) := by
  have hnothing : AllAdmitted db [] := fun _ htodo => absurd htodo List.not_mem_nil
  refine .validated htarget ?_
  split
  · exact .pure hnothing
  · refine .bind (succeeds_sees hdb htarget.project user) fun sees _ => ?_
    cases sees with
    | false => exact .pure hnothing
    | true =>
      exact .pure (allAdmitted_upserts htarget huser none (List.forall_mem_singleton.2 huser))

end Plan

section Notes

variable {settings : Settings} (hdb : WellFormed db) {note : Note}
  (htarget : note.noteable.IsGrounded db) {user : UserId} (huser : db.HasUser user)

include hdb htarget huser

/-- For a new note. -/
theorem succeeds_planNewNote (htaken : settings.Takes ⟨note.body, none⟩) :
    Succeeds (planNewNote (builtInWitnesses σ settings db) note user) (AllAdmitted db) := by
  unfold planNewNote
  split
  · exact .pure fun _ htodo => absurd htodo List.not_mem_nil
  · refine .validated htarget ?_
    refine .bind (succeeds_ofMentions hdb htarget.project htaken _) fun mentioned hmentioned =>
      .pure fun todo htodo => ?_
    have hadmitted := allAdmitted_upserts htarget huser (some note.id) hmentioned
    rcases List.mem_cons.1 htodo with hresolve | htodo
    · cases hresolve
    · exact hadmitted todo htodo

/-- For an edited note. -/
theorem succeeds_planUpdateNote {previous : Option String}
    (htaken : settings.Takes ⟨note.body, previous⟩) (skip : List UserId) :
    Succeeds (planUpdateNote (builtInWitnesses σ settings db) note user previous skip)
      (AllAdmitted db) := by
  unfold planUpdateNote
  split
  · exact .pure fun _ htodo => absurd htodo List.not_mem_nil
  · refine .validated htarget ?_
    refine .bind (succeeds_ofMentions hdb htarget.project htaken _) fun mentioned hmentioned =>
      .pure ?_
    exact allAdmitted_upserts htarget huser (some note.id) hmentioned

end Notes

/-- **What a grounded event asks for is found, and all its new to-dos are admitted.** -/
theorem succeeds_plan {settings : Settings} (hdb : WellFormed db) (h : event.IsGrounded db)
    (htaken : ∀ change, event.textChange? = some change → settings.Takes change) :
    Succeeds (plan (builtInWitnesses σ settings db) settings event) (AllAdmitted db) := by
  have hactor {user : UserId} (hactor : event.actor? = some user) : db.HasUser user := by
    obtain ⟨account, haccount⟩ := h.actor user hactor
    exact Database.hasUser_of_user? haccount
  have htarget {target : Target} (htarget : event.target? = some target) : target.IsGrounded db :=
    h.target target htarget
  cases event with
  | newIssue | newMergeRequest => exact succeeds_planNew hdb (htarget rfl) (hactor rfl) (htaken _ rfl)
  | updateIssue | updateMergeRequest =>
    exact succeeds_planUpdate hdb (htarget rfl) (hactor rfl) (htaken _ rfl) _
  | closeIssue | closeMergeRequest | mergeMergeRequest | push | awardEmoji |
    resolveTodosForTarget => exact succeeds_planResolve (htarget rfl) _ _
  | reopenIssue | reopenMergeRequest => exact succeeds_planReopen (htarget rfl)
  | reassigned => exact succeeds_planReassigned hdb (htarget rfl) (hactor rfl) _
  | buildFailed | unmergeable => exact succeeds_planParticipants hdb (htarget rfl) _
  | newNote => exact succeeds_planNewNote hdb (htarget rfl) (hactor rfl) (htaken _ rfl)
  | updateNote => exact succeeds_planUpdateNote hdb (htarget rfl) (hactor rfl) (htaken _ rfl) _
  | markTodo => exact succeeds_planMark hdb (htarget rfl) (hactor rfl)
  | targetDestroyed | markAllDone => exact .pure (allAdmitted_singleton rfl)
  | resolveTodos ids user resolution =>
    refine .pure ?_
    split
    · exact fun _ htodo => absurd htodo List.not_mem_nil
    · exact allAdmitted_singleton rfl
  | restoreTodos ids user =>
    refine .pure ?_
    split
    · exact fun _ htodo => absurd htodo List.not_mem_nil
    · exact allAdmitted_singleton rfl

/-- What is found is taken by the store. -/
theorem succeeds_gather {settings : Settings} (hdb : WellFormed db) (h : event.IsGrounded db)
    (htaken : ∀ change, event.textChange? = some change → settings.Takes change) :
    Succeeds (gather (.builtIn settings : Collaborators (StateM σ)) settings event db)
      (AllAdmitted db) := by
  refine .bind (succeeds_plan hdb h htaken) fun ops hops => ?_
  split
  · exact fun _ => ⟨ops, rfl, hops⟩
  · exact .pure hops

/-! ### After all calls -/

/-- An event puts in what it asks for besides its revision. -/
theorem countP_batch (event : Event) (todos : List NewTodo) :
    (event.batch todos).countP (!·.isRevision) = todos.length := by
  have hrevision : event.revision?.toList.countP (!·.isRevision) = 0 := by
    rw [List.countP_eq_zero]
    intro op hop
    rw [Event.isRevision_of_revision? (Option.mem_toList.1 hop)]
    exact Bool.false_ne_true
  have htodos : (todos.map Op.upsert).countP (!·.isRevision) = todos.length := by
    rw [List.countP_map, List.countP_eq_length]
    exact fun _ _ => rfl
  rw [Event.batch, List.countP_append, hrevision, htodos, Nat.zero_add]

/-- **No event fails without a reason.** After all calls, with the built-in collaborators, an event
succeeds if who acts exists, its target is valid and in a project that exists, and the to-dos that
it names are those of the acting user. It does not matter whom it names besides. No text in which
it looks for mentions may have more handles than can be looked for in one statement. The table must
have room for what the event puts in, which is so while the greatest id is not taken. -/
theorem handle_succeeds (calls : List Call) (settings : Settings) (c : Collaborators (StateM σ))
    (hc : c = .builtIn settings) (now : Int64) (event : Event) (world : σ)
    (hgrounded : event.IsGrounded (State.after calls).database)
    (htaken : ∀ change, event.textChange? = some change → settings.Takes change)
    (hroom : ∀ ops, ((gather c settings event (State.after calls).database).run.run world).1 =
        .ok ops →
      (State.after calls).database.todos.length + ops.countP (!·.isRevision) < 2 ^ 63) :
    ∃ outcome, ((handle c settings now event (State.after calls)).run world).1.1 = .ok outcome := by
  subst hc
  have hdb := wellFormed_after calls
  obtain ⟨ops, hops, hadmitted⟩ := succeeds_gather hdb hgrounded htaken world
  obtain ⟨todos, rfl, _⟩ := gives_gather _ settings event _ world ops hops
  have hspace := hroom _ hops
  rw [countP_batch] at hspace
  have hrevision : ∀ op, event.revision? = some op →
      op.isRevision = true ∧ op.Permitted (State.after calls).database := fun op hop =>
    ⟨Event.isRevision_of_revision? hop, hgrounded.permitted hdb hop⟩
  have htodos : ∀ todo ∈ todos, admits (State.after calls).database todo = true :=
    fun todo htodo => hadmitted todo (List.mem_append_right _ (List.mem_map_of_mem htodo))
  obtain ⟨after, effects, happly⟩ := Ledger.exists_apply now hdb hrevision hspace htodos
  have hconclude := conclude_of_apply now happly
  rw [run_handle, hops, report]
  exact ⟨outcomeOf effects, congrArg (·.1.map outcomeOf) hconclude⟩

/-- An issue that names users twice, users who do not exist, and a handle of nobody. -/
theorem handle_succeeds_unknown_users :
    let c : Collaborators (StateM Unit) := .builtIn {}
    let calls : List Call := [.createUser "ada" false, .createUser "bob" false,
      .createProject "engine" .everyone false]
    let issue : Issue :=
      { id := 5, projectId := 1, authorId := 9, assignees := [2, 7, 2], description := "@nobody" }
    ∃ outcome, ((handle c {} 8 (.newIssue issue 1) (State.after calls)).run ()).1.1 =
      .ok outcome := by
  intro c calls issue
  have hgrounded : (Event.newIssue issue 1).IsGrounded (State.after calls).database := by
    constructor
    · rintro user ⟨⟩
      exact ⟨⟨1, "ada", false, 0, 0⟩, by decide +kernel⟩
    · rintro target ⟨⟩
      exact ⟨by decide +kernel, ⟨1, "engine", .everyone, false⟩, by decide +kernel⟩
    · exact fun id hid => absurd hid List.not_mem_nil
  have htaken : ∀ change, (Event.newIssue issue 1).textChange? = some change →
      Settings.Takes {} change := by
    rintro change ⟨⟩
    decide +kernel
  refine handle_succeeds calls {} c rfl 8 _ () hgrounded htaken fun ops hops => ?_
  have hgathered : ((gather c {} (.newIssue issue 1) (State.after calls).database).run.run ()).1 =
      .ok [.upsert ⟨2, 1, 1, .row .issue 5, none, .assigned⟩] := by decide +kernel
  rw [hgathered] at hops
  cases hops
  decide +kernel

end Service

end TodoLedger
