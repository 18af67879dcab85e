import TodoLedger.Event.Basic
import TodoLedger.Ledger.Op
import TodoLedger.Recipients

/-!
# What an event asks of the ledger

An event is handled in two phases. The first, here, only reads: it finds the recipients and gives
the ops that the event asks for. A failure in this phase leaves everything as it was.
-/

namespace TodoLedger.Service

open Ledger (Op)

/-- What can be set for a service. -/
structure Settings where
  /-- A new target's author who is assigned to it receives a to-do as well. -/
  assignAuthorOnCreate : Bool := false
  /-- Mentions in code do not count. -/
  ignoreCodeBlocks : Bool := true
deriving DecidableEq, Repr

variable {n : Type → Type} [Monad n] (w : Witnesses n) (settings : Settings)

/-- Fails for a target that a to-do cannot point at. -/
def validated (target : Target) : ExceptT Error n Unit :=
  match target.validate with
  | .ok () => pure ()
  | .error flaw => throw (.invalidTarget flaw)

/-- The to-do that a recipient shall receive. -/
def newTodo (target : Target) (author : UserId) (noteId : Option UInt64) (recipient : Recipient) :
    NewTodo where
  userId := recipient.userId
  authorId := author
  projectId := target.projectId
  target := target.reference
  noteId := noteId
  action := recipient.action

/-- The ops that give each recipient a to-do by one author. -/
def upserts (target : Target) (author : UserId) (noteId : Option UInt64)
    (recipients : List Recipient) : List Op :=
  recipients.map fun recipient => .upsert (newTodo target author noteId recipient)

/-- For a new target: its assignees, then those whom its text mentions. The author counts as an
assignee only where the settings say so; who is given an assignment is not mentioned as well. -/
def planNew (target : Target) (user : UserId) : ExceptT Error n (List Op) := do
  validated target
  let assignees := target.assignees.filter fun id => settings.assignAuthorOnCreate || id ≠ user
  let assigned ← Recipient.ofAssignment w assignees [] target
  let mentioned ← Recipient.ofMentions w ⟨target.text, none⟩ (assigned.map (·.userId)) target
  return upserts target user none (assigned ++ mentioned)

/-- For an edited target: those whom its text mentions. -/
def planUpdate (target : Target) (user : UserId) (previous : Option String)
    (skip : List UserId) : ExceptT Error n (List Op) := do
  validated target
  let mentioned ← Recipient.ofMentions w ⟨target.text, previous⟩ skip target
  return upserts target user none mentioned

/-- Resolves the to-dos on a target, of all users or of one, for all actions or one. -/
def planResolve (target : Target) (user : Option UserId) (action : Option Action) :
    ExceptT Error n (List Op) := do
  validated target
  return [.resolveForTarget target.reference user action]

/-- For a target that is worked on again: nothing. -/
def planReopen (target : Target) : ExceptT Error n (List Op) := do
  validated target
  return []

/-- For changed assignees: those who were not assigned before, whoever acts. -/
def planReassigned (target : Target) (user : UserId) (oldAssignees : List UserId) :
    ExceptT Error n (List Op) := do
  validated target
  let assigned ← Recipient.ofAssignment w target.assignees oldAssignees target
  return upserts target user none assigned

/-- For trouble with a merge request: a to-do for everyone who works on it, by themselves. -/
def planParticipants (target : Target) (action : Action) : ExceptT Error n (List Op) := do
  validated target
  let recipients ← Recipient.ofParticipants w action target
  return recipients.flatMap fun recipient => upserts target recipient.userId none [recipient]

/-- For a new note: whoever comments has seen to what was pending on the target; then those whom
the note mentions. -/
def planNewNote (note : Note) (user : UserId) : ExceptT Error n (List Op) := do
  if !note.canCreateTodo then return []
  else
    let target := note.noteable
    validated target
    let mentioned ← Recipient.ofMentions w ⟨note.body, none⟩ [] target
    return .resolveForTarget target.reference (some user) none ::
      upserts target user (some note.id) mentioned

/-- For an edited note: those whom it mentions. -/
def planUpdateNote (note : Note) (user : UserId) (previous : Option String)
    (skip : List UserId) : ExceptT Error n (List Op) := do
  if !note.canCreateTodo then return []
  else
    let target := note.noteable
    validated target
    let mentioned ← Recipient.ofMentions w ⟨note.body, previous⟩ skip target
    return upserts target user (some note.id) mentioned

/-- A user's own request for a to-do, if they see the target. -/
def planMark (target : Target) (user : UserId) : ExceptT Error n (List Op) := do
  validated target
  if !target.acceptsTodos then return []
  else if ← w.sees target user then return upserts target user none [⟨user, .marked⟩]
  else return []

/-- The ops that an event asks for. -/
def plan : Event → ExceptT Error n (List Op)
  | .newIssue issue user => planNew w settings (.issue issue) user
  | .updateIssue issue user previous skip => planUpdate w (.issue issue) user previous skip
  | .closeIssue issue _ => planResolve (.issue issue) none none
  | .reopenIssue issue _ => planReopen (.issue issue)
  | .newMergeRequest mr user => planNew w settings (.mergeRequest mr) user
  | .updateMergeRequest mr user previous skip => planUpdate w (.mergeRequest mr) user previous skip
  | .closeMergeRequest mr _ => planResolve (.mergeRequest mr) none none
  | .reopenMergeRequest mr _ => planReopen (.mergeRequest mr)
  | .mergeMergeRequest mr _ => planResolve (.mergeRequest mr) none none
  | .reassigned target user oldAssignees => planReassigned w target user oldAssignees
  | .buildFailed mr => planParticipants w (.mergeRequest mr) .buildFailed
  | .push mr user => planResolve (.mergeRequest mr) (some user) (some .buildFailed)
  | .unmergeable mr => planParticipants w (.mergeRequest mr) .unmergeable
  | .awardEmoji target user => planResolve target (some user) none
  | .newNote note user => planNewNote w note user
  | .updateNote note user previous skip => planUpdateNote w note user previous skip
  | .markTodo target user => planMark w target user
  | .resolveTodosForTarget target user => planResolve target (some user) none
  | .targetDestroyed target => pure [.purgeTarget target.reference]
  | .resolveTodos ids user resolution =>
    pure (if ids.isEmpty then [] else [.resolveCollection ids user resolution])
  | .restoreTodos ids user => pure (if ids.isEmpty then [] else [.restoreCollection ids user])
  | .markAllDone user => pure [.resolveAllForUser user .markAllDone]

end TodoLedger.Service
