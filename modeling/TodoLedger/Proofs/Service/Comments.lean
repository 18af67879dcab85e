import TodoLedger.Proofs.Insertion
import TodoLedger.Proofs.Service.Telling

/-!
# New notes

* `Comment`: a new note that makes to-dos, who comments, and what the collaborators tell of it.
* `Comment.IsReferred`: the note refers to the user, who sees the target. `Comment.awaits`: the row
  waits for the commenting user on the target.
* The event resolves what waits for the commenting user, and then asks for a to-do for each user to
  whom the note refers (`Comment.gives_gather`), the commenting user among them.
* **After the event all that waits for the commenting user on the target is the row that the note
  gave them, if it refers to them. The others to whom it refers are asked to look at the target, and
  those have a new row for that who were not asked before** (`handle_comment`). Their earlier rows
  stay as they were.
-/

namespace TodoLedger.Service

open Ledger (Op Run Stepped Ran Inserted revised refresh)

/-- A new note, and what is known of it. -/
structure Comment where
  note : Note
  /-- Who comments. -/
  actor : UserId
  /-- To whom the note refers. -/
  mentions : Mentions UserId
  /-- Who sees the target. -/
  visible : UserId → Bool

namespace Comment

variable (m : Comment) {user : UserId} {row : TodoRow}

/-! ### Who shall look at the target -/

/-- The note refers to the user, who sees the target. -/
structure IsReferred (user : UserId) : Prop where
  referenced : user ∈ m.mentions.all
  visible : m.visible user = true

/-- True of the pending rows of the commenting user on the target. -/
def awaits (row : TodoRow) : Bool :=
  row.isPending && row.belongsTo m.actor && row.points m.note.noteable.reference

/-- The to-do that the note gives a user, with the note's id. -/
def todoFor (user : UserId) : NewTodo where
  userId := user
  authorId := m.actor
  projectId := m.note.noteable.projectId
  target := m.note.noteable.reference
  noteId := some m.note.id
  action := Recipient.mentionAction m.mentions user

/-- The users to whom the note refers and who see the target, in ascending order. -/
def users : List UserId := m.mentions.all.filter m.visible

/-- In the list are those to whom the note refers and who see its target. -/
theorem mem_users : user ∈ m.users ↔ m.IsReferred user := by
  rw [users, List.mem_filter]
  exact ⟨fun ⟨hreferenced, hvisible⟩ => ⟨hreferenced, hvisible⟩,
    fun ⟨hreferenced, hvisible⟩ => ⟨hreferenced, hvisible⟩⟩

/-- Each user gets one to-do. -/
theorem nodup_users : ((m.users.map m.todoFor).map (·.userId)).Nodup := by
  rw [Ledger.map_userId_map fun _ => rfl]
  exact (nodup_ascending _).filter _

/-! ### What the event asks for -/

/-- The op that resolves what waits for the commenting user. -/
def resolution : Op := .resolveForTarget m.note.noteable.reference (some m.actor) none

/-- The op affects what waits for the commenting user. -/
theorem affects_resolution (row : TodoRow) : m.resolution.affects row = m.awaits row := by
  simp only [resolution, Op.affects, awaits, Option.all_some, Option.all_none, Bool.and_true,
    Bool.and_assoc, Bool.and_comm (row.points _)]

section Gathering

variable {σ : Type} {c : Collaborators (StateM σ)} {settings : Settings} {db : Database}

/-- **The event resolves what waits for the commenting user, and then asks for a to-do for each user
to whom the note refers.** -/
theorem gives_gather (hcreates : m.note.canCreateTodo = true)
    (htells : Tells (c.witnesses db) m.note.body m.mentions m.note.noteable m.visible) :
    Gives (gather c settings (.newNote m.note m.actor) db)
      (· = m.resolution :: (m.users.map m.todoFor).map .upsert) := by
  refine .gather ?_
  change Gives (planNewNote (c.witnesses db) m.note m.actor) _
  rw [planNewNote, hcreates]
  refine .of_validated (.bind (htells.ofMentions []) fun mentioned hmentioned => .pure ?_)
  have hall : m.mentions.all.filter (!([] : List UserId).contains ·) = m.mentions.all :=
    List.filter_eq_self.2 fun _ _ => rfl
  rw [hmentioned, hall, upserts, List.map_map, List.map_map]
  rfl

/-- A new note as the built-in collaborators tell of it. -/
def builtIn (settings : Settings) (db : Database) (note : Note) (actor : UserId) : Comment where
  note := note
  actor := actor
  mentions := (answers settings db).references note.body
  visible user := db.canSee user note.noteable matches .ok true

/-- The built-in collaborators tell that of it. -/
theorem tells_builtIn (settings : Settings) (db : Database) (note : Note) (actor : UserId) :
    let m := builtIn settings db note actor
    Tells (builtInWitnesses σ settings db) m.note.body m.mentions m.note.noteable m.visible :=
  Service.tells_builtIn settings db note.body note.noteable

end Gathering

/-! ### What becomes of the to-dos -/

/-- What became of the to-dos when a note was new. -/
structure Commented (now : Int64) (before after : Database) (rows : List TodoRow) : Prop where
  /-- What waited for the commenting user is done, all other rows are as they were, and the new rows
  follow. -/
  appended : after.todos = before.todos.map
    (fun row => if m.awaits row then row.resolved now .systemDone else row) ++ rows
  /-- Nobody has two new rows. -/
  once : (rows.map (·.userId)).Nodup
  /-- They are for users to whom the note refers. -/
  new : ∀ row ∈ rows, ∃ user, m.IsReferred user ∧ row = TodoRow.ofNew row.id now (m.todoFor user)
  /-- All that waits for the commenting user is what the note gave them. -/
  own : m.IsReferred m.actor → ∃ row ∈ rows, after.todos.filter m.awaits = [row] ∧
    row = TodoRow.ofNew row.id now (m.todoFor m.actor)
  /-- Nothing waits for them if it gave them nothing. -/
  none : ¬ m.IsReferred m.actor → after.todos.filter m.awaits = []
  /-- The others are asked to look at the target, and have a new row if they were not before. -/
  others : ∀ user, user ≠ m.actor → m.IsReferred user → IsPrompted before after rows user
    m.note.noteable.reference [.mentioned, .directlyAddressed]

section Rows

variable {now : Int64} {db between after : Database} {rows : List TodoRow}

/-- What the note gives is for being mentioned or addressed. -/
theorem action_mem (user : UserId) :
    (m.todoFor user).action ∈ [.mentioned, .directlyAddressed] := by
  rw [todoFor, Recipient.mentionAction]
  split <;> simp

/-- All rows after the first op. -/
theorem todos_revised (now : Int64) (db : Database) : (revised now m.resolution db).todos =
    db.todos.map fun row => if m.awaits row then row.resolved now .systemDone else row := by
  rw [Ledger.revised_of_rewrite (Op.rewrite_of_resolves rfl)]
  simp only [affects_resolution]

/-- After the first op nothing waits for the commenting user. -/
theorem filter_revised (now : Int64) (db : Database) :
    (revised now m.resolution db).todos.filter m.awaits = [] := by
  rw [todos_revised, List.filter_eq_nil_iff]
  intro row hrow
  obtain ⟨before, -, rfl⟩ := List.mem_map.1 hrow
  split
  · rw [awaits]
    simp [TodoRow.isPending, TodoRow.resolved, TodoState.name]
  · next hawaits => exact hawaits

/-- The first op keeps what the others are asked. -/
theorem pendingFor_revised (now : Int64) (db : Database) (huser : user ≠ m.actor)
    (target : TargetRef) (actions : List Action) :
    (revised now m.resolution db).pendingFor user target actions =
      db.pendingFor user target actions := by
  refine pendingFor_congr (Ledger.filter_revise fun row _ hbelongs => ?_) target actions
  have hother : row.belongsTo m.actor = false :=
    Bool.eq_false_iff.2 fun hactor => huser (TodoRow.eq_of_belongsTo hbelongs hactor)
  rw [affects_resolution, awaits, hother, Bool.and_false, Bool.false_and]

/-- What the note gives waits for the commenting user if it is for them. -/
theorem awaits_ofNew (id now : Int64) (user : UserId) :
    m.awaits (TodoRow.ofNew id now (m.todoFor user)) =
      (TodoRow.ofNew id now (m.todoFor user)).belongsTo m.actor := by
  have hpending : (TodoRow.ofNew id now (m.todoFor user)).isPending = true := rfl
  have hpoints :
      (TodoRow.ofNew id now (m.todoFor user)).points m.note.noteable.reference = true := by
    simp [TodoRow.points, TodoRow.ofNew, todoFor]
  rw [awaits, hpending, hpoints, Bool.true_and, Bool.and_true]

/-- A row that stands in the way of the note's to-do for the commenting user waits for them. -/
theorem awaits_of_blocks (h : Ledger.blocks row (m.todoFor m.actor) = true) :
    m.awaits row = true := by
  rw [Ledger.blocks, Bool.and_eq_true, Bool.and_eq_true, Bool.and_eq_true] at h
  obtain ⟨⟨⟨hbelongs, hpending⟩, hpoints⟩, -⟩ := h
  change row.belongsTo m.actor = true at hbelongs
  change row.points m.note.noteable.reference = true at hpoints
  rw [awaits, hpending, hbelongs, hpoints]
  rfl

/-- Each new row is that of a user to whom the note refers. -/
theorem exists_user (h : Inserted now between after (m.users.map m.todoFor) rows)
    (hrow : row ∈ rows) :
    ∃ user, m.IsReferred user ∧ row = TodoRow.ofNew row.id now (m.todoFor user) := by
  obtain ⟨todo, htodo, heq⟩ := h.exists_todo row hrow
  obtain ⟨user, huser, rfl⟩ := List.mem_map.1 htodo
  exact ⟨user, m.mem_users.1 huser, heq⟩

/-- The new row of the commenting user is what the note gave them. -/
theorem eq_of_belongsTo (h : Inserted now between after (m.users.map m.todoFor) rows)
    (hrow : row ∈ rows) (hbelongs : row.belongsTo m.actor = true) :
    m.IsReferred m.actor ∧ row = TodoRow.ofNew row.id now (m.todoFor m.actor) := by
  obtain ⟨user, hreferred, heq⟩ := m.exists_user h hrow
  rw [heq] at hbelongs
  obtain rfl : user = m.actor := TodoRow.belongsTo_ofNew.1 hbelongs
  exact ⟨hreferred, heq⟩

/-- What waits for the commenting user among the new rows is what belongs to them. -/
theorem filter_awaits (h : Inserted now between after (m.users.map m.todoFor) rows) :
    rows.filter m.awaits = rows.filter (·.belongsTo m.actor) := by
  refine List.filter_congr fun row hrow => ?_
  obtain ⟨user, -, heq⟩ := m.exists_user h hrow
  rw [heq]
  exact m.awaits_ofNew row.id now user

/-- **The commenting user has a new row if the note refers to them**, since nothing waits for them
any more that could stand in its way. -/
theorem exists_own
    (h : Inserted now (revised now m.resolution db) after (m.users.map m.todoFor) rows)
    (hreferred : m.IsReferred m.actor) : ∃ row ∈ rows, row.belongsTo m.actor = true := by
  have htodo : m.todoFor m.actor ∈ m.users.map m.todoFor :=
    List.mem_map_of_mem (m.mem_users.2 hreferred)
  refine (h.exists_row_iff_of_mem m.nodup_users htodo).2 ?_
  rw [List.any_eq_false]
  intro row hrow hblocks
  exact List.filter_eq_nil_iff.1 (m.filter_revised now db) row hrow (m.awaits_of_blocks hblocks)

end Rows

end Comment

open Comment

/-- **After the event of a new note, all that waits for the commenting user on the target is the row
that the note gave them, if it refers to them**, and the others to whom it refers are asked to look
at the target; just those have a new row who were not asked before. -/
theorem handle_comment {σ : Type} (c : Collaborators (StateM σ)) (settings : Settings) (m : Comment)
    (now : Int64) (hcreates : m.note.canCreateTodo = true) (s : State) (world : σ)
    (htells : Tells (c.witnesses s.database) m.note.body m.mentions m.note.noteable m.visible)
    {outcome : Outcome}
    (hok : ((handle c settings now (.newNote m.note m.actor) s).run world).1.1 = .ok outcome) :
    ∃ rows, m.Commented now s.database
      ((handle c settings now (.newNote m.note m.actor) s).run world).1.2.database rows := by
  obtain ⟨ops, done, hops, hran, hafter, _⟩ := exists_gather_of_handle hok
  obtain rfl := m.gives_gather hcreates htells world ops hops
  rw [hafter]
  cases hran with
  | @cons _ _ change _ last hstep hlast =>
    -- The first op resolves; then the others find what it left.
    rw [hstep.eq_revised rfl] at hlast
    obtain ⟨rows, hinserted⟩ := hlast.exists_inserted m.nodup_users
    have happended := hinserted.appended
    have hown : last.database.todos.filter m.awaits = rows.filter (·.belongsTo m.actor) := by
      rw [happended, List.filter_append, m.filter_revised, List.nil_append,
        m.filter_awaits hinserted]
    refine ⟨rows, ?_, hinserted.nodup m.nodup_users, ?_, ?_, ?_, ?_⟩
    · rw [← m.todos_revised]
      exact happended
    · exact fun row hrow => m.exists_user hinserted hrow
    · intro hreferred
      obtain ⟨row, hrow, hbelongs⟩ := m.exists_own hinserted hreferred
      exact ⟨row, hrow, hown.trans (hinserted.filter_belongsTo m.nodup_users hrow hbelongs),
        (m.eq_of_belongsTo hinserted hrow hbelongs).2⟩
    · intro hunreferred
      refine hown.trans (List.filter_eq_nil_iff.2 fun row hrow hbelongs => hunreferred ?_)
      exact (m.eq_of_belongsTo hinserted hrow hbelongs).1
    · intro user hother hreferred
      have htodo := List.mem_map_of_mem (f := m.todoFor) (m.mem_users.2 hreferred)
      obtain ⟨hpending, hnew⟩ := hinserted.isPrompted hlast m.nodup_users htodo
        (List.mem_cons_of_mem _ List.mem_cons_self) (m.action_mem user)
      refine ⟨hpending, hnew.trans ?_⟩
      rw [← m.pendingFor_revised now s.database hother]
      rfl

/-- Ada, who is assigned, comments on her issue, and mentions herself and bob. -/
theorem handle_comment_self_mention :
    let c : Collaborators (StateM Unit) := .builtIn {}
    let issue : Issue := { id := 5, projectId := 1, authorId := 2, assignees := [1] }
    let calls : List Call := [.createUser "ada" false, .createUser "bob" false,
      .createProject "engine" .everyone false, .handle ⟨Unit, c, ()⟩ {} 7 (.newIssue issue 2)]
    let s := State.after calls
    let m := builtIn {} s.database ⟨1, 1, "@ada: see @bob", false, .issue issue⟩ 1
    m.users = [1, 2] ∧ m.note.canCreateTodo = true ∧
    ((handle c {} 8 (.newNote m.note m.actor) s).run ()).1.1 = .ok ⟨[2, 3], [1], []⟩ ∧
    ∃ rows, m.Commented 8 s.database
      ((handle c {} 8 (.newNote m.note m.actor) s).run ()).1.2.database rows := by
  intro c issue calls s m
  have hok : ((handle c {} 8 (.newNote m.note m.actor) s).run ()).1.1 = .ok ⟨[2, 3], [1], []⟩ := by
    decide +kernel
  have htells := Comment.tells_builtIn (σ := Unit) {} s.database m.note 1
  exact ⟨by decide +kernel, rfl, hok, handle_comment c {} m 8 rfl s () htells hok⟩

end TodoLedger.Service
