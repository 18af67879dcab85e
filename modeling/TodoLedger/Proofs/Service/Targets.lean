import TodoLedger.Proofs.Service.History
import TodoLedger.Proofs.Service.Request

/-!
# What the to-dos of events point at

* `NewTodo.IsOn`: a to-do is on a target that was checked and on which there are to-dos. Trouble
  with a merge request is told to those who work on it, as if each had caused it.
* **Whatever an event asks for is on such a target** (`gives_plan_onTargets`), whoever is mentioned
  and whoever is said to see what.
* `TodoRow.IsTargeted` is what this means for the columns of a row. It is true of the rows of such
  to-dos (`isTargeted_ofNew`), and stays so for ever (`TodoRow.IsTargeted.of_origin`).
* **After all requests to the service, every row is so** (`targeted_after`).
-/

namespace TodoLedger

open Ledger (Op Ran)

/-! ### To-dos on targets -/

/-- True of the actions for trouble with a merge request. -/
def Action.isTrouble : Action → Bool
  | .buildFailed | .unmergeable => true
  | .assigned | .mentioned | .marked | .directlyAddressed => false

/-- The to-do is on a target that was checked and that has to-dos. -/
structure NewTodo.IsOn (todo : NewTodo) (target : Target) : Prop where
  reference : todo.target = target.reference
  project : todo.projectId = target.projectId
  valid : target.validate = .ok ()
  accepts : target.acceptsTodos = true
  /-- Only merge requests have trouble, of which each user tells themselves. -/
  trouble : todo.action.isTrouble = true →
    target.kind = .mergeRequest ∧ todo.authorId = todo.userId

/-- All new to-dos among the ops are on targets. -/
def AllOnTargets (ops : List Op) : Prop := ∀ todo, Op.upsert todo ∈ ops → ∃ target, todo.IsOn target

namespace Service

variable {σ α : Type}

/-- After a check of the target that fails nothing is given, so the target is valid. -/
theorem Gives.of_valid {x : ExceptT Error (StateM σ) α} {P : α → Prop} {target : Target}
    (h : target.validate = .ok () → Gives x P) : Gives (do validated target; x) P := by
  have hvalid : Gives (validated target : ExceptT Error (StateM σ) Unit)
      fun _ => target.validate = .ok () := by
    unfold validated
    split
    · next hok => exact .pure hok
    · exact .throw _
  exact .bind hvalid fun _ => h

section Plan

variable (w : Witnesses (StateM σ)) (settings : Settings) {target : Target}

/-- To-dos for recipients without trouble are on a target that is valid and has to-dos. -/
theorem onTargets_upserts (hvalid : target.validate = .ok ()) (haccepts : target.acceptsTodos = true)
    (author : UserId) (noteId : Option UInt64) {recipients : List Recipient}
    (h : ∀ recipient ∈ recipients, recipient.action.isTrouble = false) :
    AllOnTargets (upserts target author noteId recipients) := by
  intro todo htodo
  obtain ⟨recipient, hrecipient, heq⟩ := List.mem_map.1 htodo
  cases heq
  refine ⟨target, rfl, rfl, hvalid, haccepts, fun htrouble => ?_⟩
  have hnone : recipient.action.isTrouble = true := htrouble
  rw [h recipient hrecipient] at hnone
  cases hnone

/-- Who is mentioned has no trouble. -/
theorem isTrouble_of_mentioned {action : Action} (h : action ∈ [.mentioned, .directlyAddressed]) :
    action.isTrouble = false := by
  simp only [List.mem_cons, List.not_mem_nil, or_false] at h
  rcases h with rfl | rfl <;> rfl

/-- For those whom a text mentions, after ops that give no to-do. -/
theorem gives_mentioned_onTargets (hvalid : target.validate = .ok ())
    (haccepts : target.acceptsTodos = true) (author : UserId) (noteId : Option UInt64)
    (change : TextChange) (skip : List UserId) (before : List Op) (hbefore : AllOnTargets before) :
    Gives (do
      let mentioned ← Recipient.ofMentions w change skip target
      return before ++ upserts target author noteId mentioned) AllOnTargets := by
  refine .bind (gives_ofMentions w target change skip) fun mentioned hmentioned => .pure ?_
  intro todo htodo
  rcases List.mem_append.1 htodo with htodo | htodo
  · exact hbefore todo htodo
  · exact onTargets_upserts hvalid haccepts author noteId
      (fun recipient hrecipient => isTrouble_of_mentioned (hmentioned recipient hrecipient)) todo
      htodo

/-- Ops that put in nothing. -/
theorem onTargets_of_isRevision {ops : List Op} (h : ∀ op ∈ ops, op.isRevision = true) :
    AllOnTargets ops := by
  intro todo htodo
  cases h _ htodo

/-- For a new target. -/
theorem gives_planNew_onTargets (haccepts : target.acceptsTodos = true) (user : UserId) :
    Gives (planNew w settings target user) AllOnTargets := by
  refine .of_valid fun hvalid => ?_
  refine .bind (gives_ofUsers w target .assigned _) fun assigned hassigned => ?_
  refine .bind (gives_ofMentions w target _ _) fun mentioned hmentioned => .pure ?_
  refine onTargets_upserts hvalid haccepts user none fun recipient hrecipient => ?_
  rcases List.mem_append.1 hrecipient with hrecipient | hrecipient
  · rw [hassigned recipient hrecipient]
    rfl
  · exact isTrouble_of_mentioned (hmentioned recipient hrecipient)

/-- For an edited target. -/
theorem gives_planUpdate_onTargets (haccepts : target.acceptsTodos = true) (user : UserId)
    (previous : Option String) (skip : List UserId) :
    Gives (planUpdate w target user previous skip) AllOnTargets := by
  refine .of_valid fun hvalid => ?_
  exact gives_mentioned_onTargets w hvalid haccepts user none _ skip []
    (onTargets_of_isRevision (List.forall_mem_nil _))

/-- For to-dos on the target that become done. -/
theorem gives_planResolve_onTargets (user : Option UserId) (action : Option Action) :
    Gives (planResolve target user action : ExceptT Error (StateM σ) (List Op)) AllOnTargets :=
  .of_validated (.pure (onTargets_of_isRevision (by simp [Op.isRevision])))

/-- For a target that is worked on again. -/
theorem gives_planReopen_onTargets :
    Gives (planReopen target : ExceptT Error (StateM σ) (List Op)) AllOnTargets :=
  .of_validated (.pure (onTargets_of_isRevision (List.forall_mem_nil _)))

/-- Nobody is assigned to a target without to-dos. -/
theorem assignees_of_not_acceptsTodos (h : target.acceptsTodos = false) : target.assignees = [] := by
  cases target with
  | projectSnippet => rfl
  | issue | mergeRequest | commit | alert | design => cases h

/-- For changed assignees. A target without to-dos has none. -/
theorem gives_planReassigned_onTargets (user : UserId) (oldAssignees : List UserId) :
    Gives (planReassigned w target user oldAssignees) AllOnTargets := by
  refine .of_valid fun hvalid => ?_
  cases haccepts : target.acceptsTodos with
  | true =>
    refine .bind (gives_ofUsers w target .assigned _) fun assigned hassigned => .pure ?_
    refine onTargets_upserts hvalid haccepts user none fun recipient hrecipient => ?_
    rw [hassigned recipient hrecipient]
    rfl
  | false =>
    rw [assignees_of_not_acceptsTodos haccepts]
    exact .pure (onTargets_of_isRevision (List.forall_mem_nil _))

/-- For trouble with a merge request. -/
theorem gives_planParticipants_onTargets (mr : MergeRequest) (action : Action) :
    Gives (planParticipants w (.mergeRequest mr) action) AllOnTargets := by
  refine .of_valid fun hvalid => .bind (.self _) fun recipients _ => .pure ?_
  intro todo htodo
  obtain ⟨recipient, _, htodo⟩ := List.mem_flatMap.1 htodo
  obtain ⟨_, hself, heq⟩ := List.mem_map.1 htodo
  rw [List.mem_singleton] at hself
  subst hself
  cases heq
  exact ⟨.mergeRequest mr, rfl, rfl, hvalid, rfl, fun _ => ⟨rfl, rfl⟩⟩

/-- A note that makes to-dos is on a target that has some. -/
theorem acceptsTodos_of_canCreateTodo {note : Note} (h : note.canCreateTodo = true) :
    note.noteable.acceptsTodos = true := (Bool.and_eq_true_iff.1 h).2

/-- For a new note. -/
theorem gives_planNewNote_onTargets (note : Note) (user : UserId) :
    Gives (planNewNote w note user) AllOnTargets := by
  unfold planNewNote
  split
  · exact .pure (onTargets_of_isRevision (List.forall_mem_nil _))
  · next hsome =>
    have haccepts := acceptsTodos_of_canCreateTodo (by simpa using hsome)
    refine .of_valid fun hvalid => ?_
    exact gives_mentioned_onTargets w hvalid haccepts user (some note.id) _ []
      [.resolveForTarget note.noteable.reference (some user) none]
      (onTargets_of_isRevision (by simp [Op.isRevision]))

/-- For an edited note. -/
theorem gives_planUpdateNote_onTargets (note : Note) (user : UserId) (previous : Option String)
    (skip : List UserId) : Gives (planUpdateNote w note user previous skip) AllOnTargets := by
  unfold planUpdateNote
  split
  · exact .pure (onTargets_of_isRevision (List.forall_mem_nil _))
  · next hsome =>
    have haccepts := acceptsTodos_of_canCreateTodo (by simpa using hsome)
    refine .of_valid fun hvalid => ?_
    exact gives_mentioned_onTargets w hvalid haccepts user (some note.id) _ skip []
      (onTargets_of_isRevision (List.forall_mem_nil _))

/-- For a user's own request. -/
theorem gives_planMark_onTargets (user : UserId) :
    Gives (planMark w target user) AllOnTargets := by
  refine .of_valid fun hvalid => ?_
  have hnone : AllOnTargets [] := onTargets_of_isRevision (List.forall_mem_nil _)
  split
  · exact .pure hnone
  · next haccepts =>
    refine .bind (.self _) fun sees _ => ?_
    cases sees with
    | false => exact .pure hnone
    | true =>
      exact .pure (onTargets_upserts hvalid (by simpa using haccepts) user none (by
        simp [Action.isTrouble]))

/-- **Whatever to-dos an event asks for, they are on targets.** -/
theorem gives_plan_onTargets (event : Event) : Gives (plan w settings event) AllOnTargets := by
  cases event with
  | newIssue | newMergeRequest => exact gives_planNew_onTargets w settings rfl _
  | updateIssue | updateMergeRequest => exact gives_planUpdate_onTargets w rfl _ _ _
  | closeIssue | closeMergeRequest | mergeMergeRequest | push | awardEmoji |
    resolveTodosForTarget => exact gives_planResolve_onTargets _ _
  | reopenIssue | reopenMergeRequest => exact gives_planReopen_onTargets
  | reassigned => exact gives_planReassigned_onTargets w _ _
  | buildFailed mr => exact gives_planParticipants_onTargets w mr .buildFailed
  | unmergeable mr => exact gives_planParticipants_onTargets w mr .unmergeable
  | newNote => exact gives_planNewNote_onTargets w _ _
  | updateNote => exact gives_planUpdateNote_onTargets w _ _ _ _
  | markTodo => exact gives_planMark_onTargets w _
  | targetDestroyed | markAllDone =>
    exact .pure (onTargets_of_isRevision (by simp [Op.isRevision]))
  | resolveTodos | restoreTodos =>
    refine .pure (onTargets_of_isRevision ?_)
    split <;> simp [Op.isRevision]

end Plan

end Service

/-! ### Rows of such to-dos -/

/-- The hexadecimal digits. -/
def hexDigits : List Char := "0123456789abcdefABCDEF".toList

/-- The row points at a commit by its hash or at something else by the id of its row, never at a
snippet, and it belongs to a project. Trouble with a merge request is told by its recipient. -/
structure TodoRow.IsTargeted (row : TodoRow) : Prop where
  shape :
    (row.targetKind = TargetKind.commit.name ∧ row.targetId = none ∧
      ∃ sha, row.commitId = some sha ∧ 7 ≤ sha.length ∧ sha.length ≤ 64 ∧
        ∀ c ∈ sha.toList, c ∈ hexDigits) ∨
    (row.targetKind ≠ TargetKind.commit.name ∧ row.commitId = none ∧
      ∃ id, row.targetId = some (.ofId id) ∧ id ≠ 0)
  kind : ∃ kind : TargetKind, row.targetKind = kind.name ∧ kind ≠ .projectSnippet
  project : ∃ id, row.projectId = .ofId id ∧ id ≠ 0
  trouble : row.action = .integer Action.buildFailed.code ∨
      row.action = .integer Action.unmergeable.code →
    row.targetKind = TargetKind.mergeRequest.name ∧ row.authorId = row.userId

/-- Hexadecimal digits are ASCII characters. -/
theorem lt_of_isHexDigit {c : Char} (h : Target.isHexDigit c = true) : c.toNat < 128 := by
  simp only [Target.isHexDigit, Char.isDigit, Bool.or_eq_true, Bool.and_eq_true, decide_eq_true_eq,
    Char.le_def, UInt32.le_iff_toNat_le] at h
  have hnine : ('9' : Char).val.toNat = 57 := rfl
  have hf : ('f' : Char).val.toNat = 102 := rfl
  have hF : ('F' : Char).val.toNat = 70 := rfl
  rw [Char.toNat]
  grind

/-- What passes for a hexadecimal digit is one of the 22. -/
theorem mem_hexDigits {c : Char} (h : Target.isHexDigit c = true) : c ∈ hexDigits := by
  have hall : ∀ n < 128, Target.isHexDigit (Char.ofNat n) = true → Char.ofNat n ∈ hexDigits := by
    decide +kernel
  have hc := hall c.toNat (lt_of_isHexDigit h)
  rw [Char.ofNat_toNat] at hc
  exact hc h

/-- A valid target has a project. -/
theorem Target.projectId_ne_zero {target : Target} (h : target.validate = .ok ()) :
    target.projectId ≠ 0 := by
  unfold validate at h
  split at h
  · cases h
  · split at h
    · cases h
    · assumption

/-- A valid target is a commit with a hash, or it has the id of a row. -/
theorem Target.shape_of_validate {target : Target} (h : target.validate = .ok ()) :
    (∃ sha, target.reference = .commit sha ∧ Target.isObjectId sha = true) ∨
      ∃ id, target.reference = .row target.kind id ∧ target.kind ≠ .commit ∧ id ≠ 0 := by
  have hidentity : target.validateIdentity = .ok () := by
    unfold validate at h
    split at h
    · cases h
    · assumption
  cases target with
  | commit c =>
    refine .inl ⟨c.sha, rfl, ?_⟩
    by_contra hsha
    rw [validateIdentity, if_neg hsha] at hidentity
    cases hidentity
  | issue | mergeRequest | alert | design | projectSnippet =>
    refine .inr ⟨_, rfl, by rintro ⟨⟩, fun hzero => ?_⟩
    simp [validateIdentity, reference, TargetRef.row, hzero] at hidentity

/-- The kind of a target's reference is the target's. -/
theorem Target.reference_kind (target : Target) : target.reference.kind = target.kind := by
  cases target <;> rfl

/-- **The row of a new to-do that is on a target points at that target.** -/
theorem isTargeted_ofNew (id now : Int64) {todo : NewTodo} {target : Target}
    (h : todo.IsOn target) : (TodoRow.ofNew id now todo).IsTargeted := by
  have hkind : todo.target.kind.name = target.kind.name := by
    rw [h.reference, target.reference_kind]
  constructor
  · rcases Target.shape_of_validate h.valid with ⟨sha, href, hsha⟩ | ⟨rowId, href, hother, hid⟩
    · left
      simp only [Target.isObjectId, Bool.and_eq_true, decide_eq_true_eq, String.length_toList,
        List.all_eq_true] at hsha
      obtain ⟨⟨hleast, hmost⟩, hdigits⟩ := hsha
      simp only [TodoRow.ofNew, h.reference, href]
      exact ⟨rfl, rfl, sha, rfl, hleast, hmost, fun c hc => mem_hexDigits (hdigits c hc)⟩
    · right
      simp only [TodoRow.ofNew, h.reference, href]
      exact ⟨fun hname => hother (TargetKind.name_injective hname), rfl, rowId, rfl, hid⟩
  · refine ⟨target.kind, hkind, fun hsnippet => ?_⟩
    have haccepts := h.accepts
    cases target with
    | projectSnippet => cases haccepts
    | issue | mergeRequest | commit | alert | design => cases hsnippet
  · refine ⟨todo.projectId, rfl, ?_⟩
    rw [h.project]
    exact Target.projectId_ne_zero h.valid
  · intro haction
    have htrouble : todo.action.isTrouble = true := by
      rcases haction with haction | haction
      · rw [Action.code_injective (Cell.integer.inj haction)]
        rfl
      · rw [Action.code_injective (Cell.integer.inj haction)]
        rfl
    obtain ⟨hmergeRequest, hself⟩ := h.trouble htrouble
    constructor
    · rw [← hmergeRequest]
      exact hkind
    · exact congrArg Cell.ofId hself

/-- What a row points at stays as long as the row is there. -/
theorem TodoRow.IsTargeted.of_origin {a b : TodoRow} (h : a.origin = b.origin)
    (hb : b.IsTargeted) : a.IsTargeted := by
  have hkind : a.targetKind = b.targetKind := (congrArg TodoRow.targetKind h :)
  have hid : a.targetId = b.targetId := (congrArg TodoRow.targetId h :)
  have hcommit : a.commitId = b.commitId := (congrArg TodoRow.commitId h :)
  have hproject : a.projectId = b.projectId := (congrArg TodoRow.projectId h :)
  have haction : a.action = b.action := (congrArg TodoRow.action h :)
  have hauthor : a.authorId = b.authorId := (congrArg TodoRow.authorId h :)
  have huser : a.userId = b.userId := TodoRow.userId_eq_of_origin_eq h
  constructor
  · rw [hkind, hid, hcommit]
    exact hb.shape
  · rw [hkind]
    exact hb.kind
  · rw [hproject]
    exact hb.project
  · rw [hkind, haction, hauthor, huser]
    exact hb.trouble

/-! ### Histories -/

/-- All rows are targeted. -/
def AllTargeted (db : Database) : Prop := ∀ row ∈ db.todos, row.IsTargeted

namespace Service

variable {σ : Type}

/-- **A batch of new to-dos that are on targets, and of changes to those that are there, keeps all
rows targeted.** -/
theorem allTargeted_conclude {now : Int64} {gathered : Except Error (List Op)} {s : State}
    (hdb : AllTargeted s.database) (hgathered : ∀ ops, gathered = .ok ops → AllOnTargets ops) :
    AllTargeted (conclude now gathered s).2.database := by
  rcases conclude_database now gathered s with hsame | ⟨ops, effects, hops, happly⟩
  · rw [hsame]
    exact hdb
  · obtain ⟨done, hran, hdone, _⟩ := Ledger.exists_ran_of_apply happly
    rw [hdone]
    intro row hrow
    rcases hran.origin_cases hrow with ⟨before, hbefore, horigin⟩ | ⟨todo, id, htodo, horigin⟩
    · exact .of_origin horigin (hdb before hbefore)
    · obtain ⟨target, hon⟩ := hgathered ops hops todo htodo
      exact .of_origin horigin (isTargeted_ofNew id now hon)

/-- An event keeps all rows targeted. -/
theorem allTargeted_event (c : Collaborators (StateM σ)) (settings : Settings) (now : Int64)
    (event : Event) (world : σ) {s : State} (hdb : AllTargeted s.database) :
    AllTargeted (conclude now
      ((gather c settings event s.database).run.run world).1 s).2.database :=
  allTargeted_conclude hdb
    ((gives_plan_onTargets (c.witnesses s.database) settings event).gather world)

/-- **A request to the service, or to the tables beside the ledger, keeps all rows targeted.** -/
theorem allTargeted_perform {s : State} {call : Call} (hregular : call.isRegular = true)
    (hdb : AllTargeted s.database) : AllTargeted (call.perform s).database := by
  cases call with
  | createUser | createProject | setMember =>
    intro row hrow
    rw [(Call.perform_of_makesAccounts rfl s).1] at hrow
    exact hdb row hrow
  | apply => cases hregular
  | handle around settings now event =>
    rw [Call.perform, run_handle]
    exact allTargeted_event around.collaborators settings now event around.world hdb
  | destroy around settings now target removal =>
    rw [Call.perform]
    rcases run_destroy_database around.collaborators settings now target removal s around.world with
      hsame | ⟨between, hconclude⟩
    · rw [hsame]
      exact hdb
    · rw [hconclude]
      exact allTargeted_event around.collaborators settings now (.targetDestroyed target) between hdb

/-- **After all requests to the service, every row points at a commit by its hash or at something
else by its id, never at a snippet, and trouble is on merge requests.** Whoever is mentioned, and
whoever is said to see what. -/
theorem targeted_after (calls : List Call) (hregular : ∀ call ∈ calls, call.isRegular = true) :
    ∀ row ∈ (State.after calls).database.todos, row.IsTargeted := by
  induction calls using List.reverseRecOn with
  | nil => exact fun row hrow => absurd hrow List.not_mem_nil
  | append_singleton calls call ih =>
    rw [State.after_concat]
    have hcalls : ∀ earlier ∈ calls, earlier.isRegular = true :=
      fun earlier hearlier => hregular earlier (List.mem_append_left _ hearlier)
    exact allTargeted_perform (hregular call (by simp)) (ih hcalls)

/-- Where everybody is said to see everything, ada hears of a failed build and marks a commit, and a
snippet in vain. -/
theorem targeted_after_trouble :
    let everybody : Collaborators (StateM Unit) :=
      { Collaborators.builtIn {} with canSee := fun _ _ _ => pure true }
    let around : Surroundings := ⟨Unit, everybody, ()⟩
    let mr : MergeRequest := { id := 5, projectId := 1, authorId := 2, mergeParticipants := [1] }
    let commit : Commit := { sha := "0123aBc", projectId := 1 }
    let snippet : ProjectSnippet := { id := 9, projectId := 1, authorId := 1 }
    let calls : List Call := [.createUser "ada" false, .createProject "engine" .everyone false,
      .handle around {} 7 (.buildFailed mr), .handle around {} 8 (.markTodo (.commit commit) 1),
      .handle around {} 9 (.markTodo (.projectSnippet snippet) 1)]
    let failed := TodoRow.ofNew 1 7 ⟨1, 1, 1, .row .mergeRequest 5, none, .buildFailed⟩
    let marked := TodoRow.ofNew 2 8 ⟨1, 1, 1, .commit "0123aBc", none, .marked⟩
    (State.after calls).database.todos = [failed, marked] ∧
      failed.IsTargeted ∧ marked.IsTargeted := by
  intro everybody around mr commit snippet calls failed marked
  have htodos : (State.after calls).database.todos = [failed, marked] := by decide +kernel
  have hrows := targeted_after calls (by simp [calls, Call.isRegular])
  rw [htodos] at hrows
  exact ⟨htodos, hrows failed (by simp), hrows marked (by simp)⟩

end Service

end TodoLedger
