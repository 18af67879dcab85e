import TodoLedger.Proofs.Insertion
import TodoLedger.Proofs.Service.Telling

/-!
# New targets

* `Opening`: a new issue or merge request, who made it, and what the collaborators tell of it.
* `Opening.IsAssignee`, `Opening.IsMentioned`: who shall look at it because it is assigned to them,
  and who because its text refers to them; nobody is both.
* The recipients are these users, each once (`Opening.mem_recipients`, `Opening.nodup_recipients`),
  and the event asks for their to-dos (`Opening.gives_gather`).
* **After the event they are all asked to look at the target, and those have a new row for that who
  were not asked before** (`handle_opening`). Nobody else has one.
-/

namespace TodoLedger

open Ledger (Op)

/-- The target that the event makes known, and who made it. -/
def Event.opens? : Event → Option (Target × UserId)
  | .newIssue issue user => some (.issue issue, user)
  | .newMergeRequest mr user => some (.mergeRequest mr, user)
  | _ => none

namespace Service

/-- A new target, and what is known of it. -/
structure Opening where
  target : Target
  /-- Who made it. -/
  actor : UserId
  settings : Settings
  /-- To whom its text refers. -/
  mentions : Mentions UserId
  /-- Who sees it. -/
  visible : UserId → Bool

namespace Opening

variable (o : Opening) {user : UserId}

/-! ### Who shall look at it -/

/-- The target is assigned to the user, who sees it. Whoever made it does not count, unless the
settings say so. -/
structure IsAssignee (user : UserId) : Prop where
  assigned : user ∈ o.target.assignees
  counts : o.settings.assignAuthorOnCreate = true ∨ user ≠ o.actor
  visible : o.visible user = true

/-- The text refers to the user, who sees the target and does not look at it as an assignee. -/
structure IsMentioned (user : UserId) : Prop where
  referenced : user ∈ o.mentions.all
  visible : o.visible user = true
  other : ¬ o.IsAssignee user

/-- Why the user shall look at the target. -/
def IsReason (user : UserId) (action : Action) : Prop :=
  o.IsAssignee user ∧ action = .assigned ∨
    o.IsMentioned user ∧ action = Recipient.mentionAction o.mentions user

/-- The assignees who shall look at the target, in ascending order. -/
def assignees : List UserId :=
  (ascending (o.target.assignees.filter fun id =>
    o.settings.assignAuthorOnCreate || id ≠ o.actor)).filter o.visible

/-- The others to whom the text refers and who see the target, in ascending order. -/
def others : List UserId :=
  (o.mentions.all.filter (!o.assignees.contains ·)).filter o.visible

/-- The recipients of to-dos. -/
def recipients : List Recipient :=
  o.assignees.map (fun user => ⟨user, .assigned⟩) ++
    o.others.map fun user => ⟨user, Recipient.mentionAction o.mentions user⟩

/-- The assignees in the list are those who shall look at the target. -/
theorem mem_assignees : user ∈ o.assignees ↔ o.IsAssignee user := by
  rw [assignees, List.mem_filter, mem_ascending, List.mem_filter, Bool.or_eq_true,
    decide_eq_true_eq]
  exact ⟨fun ⟨⟨hassigned, hcounts⟩, hvisible⟩ => ⟨hassigned, hcounts, hvisible⟩,
    fun ⟨hassigned, hcounts, hvisible⟩ => ⟨⟨hassigned, hcounts⟩, hvisible⟩⟩

/-- The others in the list are those whom the text mentions. -/
theorem mem_others : user ∈ o.others ↔ o.IsMentioned user := by
  rw [others, List.mem_filter, List.mem_filter, Bool.not_eq_true', List.contains_eq_mem,
    decide_eq_false_iff_not, mem_assignees]
  exact ⟨fun ⟨⟨hreferenced, hother⟩, hvisible⟩ => ⟨hreferenced, hvisible, hother⟩,
    fun ⟨hreferenced, hvisible, hother⟩ => ⟨⟨hreferenced, hother⟩, hvisible⟩⟩

/-- The recipients are the users who shall look at the target. -/
theorem mem_recipients {recipient : Recipient} :
    recipient ∈ o.recipients ↔ o.IsReason recipient.userId recipient.action := by
  have hmem {users : List UserId} {reason : UserId → Action} :
      recipient ∈ users.map (fun user => ⟨user, reason user⟩) ↔
        recipient.userId ∈ users ∧ recipient.action = reason recipient.userId := by
    rw [List.mem_map]
    constructor
    · rintro ⟨user, huser, rfl⟩
      exact ⟨huser, rfl⟩
    · rintro ⟨huser, haction⟩
      exact ⟨recipient.userId, huser, by rw [← haction]⟩
  rw [recipients, List.mem_append, hmem, hmem, mem_assignees, mem_others]
  rfl

/-- Each recipient is so once. -/
theorem nodup_recipients : (o.recipients.map (·.userId)).Nodup := by
  rw [recipients, List.map_append, List.map_map, List.map_map]
  change (o.assignees.map id ++ o.others.map id).Nodup
  rw [List.map_id, List.map_id, List.nodup_append']
  refine ⟨(nodup_ascending _).filter _, ((nodup_ascending _).filter _).filter _, ?_⟩
  intro user hassignee hother
  exact (o.mem_others.1 hother).other (o.mem_assignees.1 hassignee)

/-! ### What the event asks for -/

variable {σ : Type} {c : Collaborators (StateM σ)} {event : Event} {s : State} {world : σ}

/-- **The event asks for a to-do for each recipient.** -/
theorem gives_gather (hevent : event.opens? = some (o.target, o.actor))
    (htells : Tells (c.witnesses s.database) o.target.text o.mentions o.target o.visible) :
    Gives (gather c o.settings event s.database)
      (· = (o.recipients.map (newTodo o.target o.actor none)).map .upsert) := by
  have hplan : Gives (planNew (c.witnesses s.database) o.settings o.target o.actor)
      (· = upserts o.target o.actor none o.recipients) := by
    refine .of_validated (.bind (htells.ofAssignment _) fun assigned hassigned => ?_)
    have husers : assigned.map (·.userId) = o.assignees := by
      rw [hassigned, List.map_map]
      exact List.map_id _
    rw [husers]
    refine .bind (htells.ofMentions o.assignees) fun mentioned hmentioned => .pure ?_
    rw [hassigned, hmentioned]
    rfl
  rw [← upserts_eq]
  refine .gather ?_
  obtain ⟨target, actor, settings, mentions, visible⟩ := o
  cases event with
  | newIssue | newMergeRequest =>
    cases hevent
    exact hplan
  | _ => cases hevent

/-- A new target as the built-in collaborators tell of it. -/
def builtIn (settings : Settings) (db : Database) (target : Target) (actor : UserId) : Opening where
  target := target
  actor := actor
  settings := settings
  mentions := (answers settings db).references target.text
  visible user := db.canSee user target matches .ok true

/-- The built-in collaborators tell that of it. -/
theorem tells_builtIn (settings : Settings) (db : Database) (target : Target) (actor : UserId) :
    let o := builtIn settings db target actor
    Tells (builtInWitnesses σ settings db) o.target.text o.mentions o.target o.visible :=
  Service.tells_builtIn settings db target.text target

/-! ### What becomes of the to-dos -/

/-- What became of the to-dos when a target was new. -/
structure Opened (now : Int64) (before after : Database) (rows : List TodoRow) : Prop where
  /-- The new rows are all that changed. -/
  appended : after.todos = before.todos ++ rows
  /-- Nobody has two of them. -/
  once : (rows.map (·.userId)).Nodup
  /-- They are for users who shall look at the target, by the one who made it. -/
  new : ∀ row ∈ rows, ∃ user action, o.IsReason user action ∧
    row = TodoRow.ofNew row.id now
      ⟨user, o.actor, o.target.projectId, o.target.reference, none, action⟩
  assigned : ∀ user, o.IsAssignee user →
    IsPrompted before after rows user o.target.reference [.assigned]
  mentioned : ∀ user, o.IsMentioned user →
    IsPrompted before after rows user o.target.reference [.mentioned, .directlyAddressed]

end Opening

open Opening

/-- **After the event of a new target, all who shall look at it are asked to do so**, and just those
have a new row for that, one each, who were not asked before. -/
theorem handle_opening {σ : Type} (c : Collaborators (StateM σ)) (o : Opening) (now : Int64)
    {event : Event} (hevent : event.opens? = some (o.target, o.actor)) (s : State) (world : σ)
    (htells : Tells (c.witnesses s.database) o.target.text o.mentions o.target o.visible)
    {outcome : Outcome}
    (hok : ((handle c o.settings now event s).run world).1.1 = .ok outcome) :
    ∃ rows, o.Opened now s.database
      ((handle c o.settings now event s).run world).1.2.database rows := by
  obtain ⟨ops, done, hops, hran, hafter, _⟩ := exists_gather_of_handle hok
  obtain rfl := o.gives_gather hevent htells world ops hops
  have husers : ((o.recipients.map (newTodo o.target o.actor none)).map (·.userId)).Nodup := by
    rw [List.map_map]
    exact o.nodup_recipients
  obtain ⟨rows, hinserted⟩ := hran.exists_inserted husers
  rw [hafter]
  have hasked {user : UserId} {action : Action} (hreason : o.IsReason user action)
      {actions : List Action} (hactions : actions ∈ Action.exclusive) (haction : action ∈ actions) :
      IsPrompted s.database (Ledger.refresh done.touched done.database) rows user o.target.reference
        actions := by
    have hrecipient : ⟨user, action⟩ ∈ o.recipients := o.mem_recipients.2 hreason
    obtain ⟨hpending, hnew⟩ := hinserted.isPrompted hran husers (List.mem_map_of_mem hrecipient)
      hactions haction
    exact ⟨hpending, hnew⟩
  refine ⟨rows, hinserted.appended, hinserted.nodup husers, ?_, ?_, ?_⟩
  · intro row hrow
    obtain ⟨todo, htodo, heq⟩ := hinserted.exists_todo row hrow
    obtain ⟨recipient, hrecipient, rfl⟩ := List.mem_map.1 htodo
    exact ⟨recipient.userId, recipient.action, o.mem_recipients.1 hrecipient, heq⟩
  · intro user huser
    exact hasked (.inl ⟨huser, rfl⟩) (by decide) (List.mem_singleton_self _)
  · intro user huser
    refine hasked (.inr ⟨huser, rfl⟩) (by decide) ?_
    rw [Recipient.mentionAction]
    split <;> simp

/-- Ada is assigned twice, bob made the issue, nobody is user 9, and carl was mentioned before. -/
theorem handle_opening_three_recipients :
    let c : Collaborators (StateM Unit) := .builtIn {}
    let issue : Issue :=
      { id := 5, projectId := 1, authorId := 2, description := "@bob: see @ada, @carl",
        assignees := [1, 9, 1, 2] }
    let calls : List Call := [.createUser "ada" false, .createUser "bob" false,
      .createUser "carl" false, .createProject "engine" .everyone false,
      .handle ⟨Unit, c, ()⟩ {} 7 (.newNote ⟨1, 1, "see @carl", false, .issue issue⟩ 1)]
    let s := State.after calls
    let o := builtIn {} s.database (.issue issue) 2
    o.recipients = [⟨1, .assigned⟩, ⟨2, .directlyAddressed⟩, ⟨3, .mentioned⟩] ∧
    ((handle c o.settings 8 (.newIssue issue 2) s).run ()).1.1 = .ok ⟨[2, 3], [], []⟩ ∧
    ∃ rows, o.Opened 8 s.database
      ((handle c o.settings 8 (.newIssue issue 2) s).run ()).1.2.database rows := by
  intro c issue calls s o
  have hok : ((handle c o.settings 8 (.newIssue issue 2) s).run ()).1.1 =
      .ok ⟨[2, 3], [], []⟩ := by decide +kernel
  have htells := Opening.tells_builtIn (σ := Unit) {} s.database (.issue issue) 2
  exact ⟨by decide +kernel, hok, handle_opening c o 8 rfl s () htells hok⟩

end Service

end TodoLedger
