import TodoLedger.Todo.Basic

/-!
# Events

What happens to targets, as far as it may create or resolve to-dos. Nearly all events have an
acting user. Each kind of event has a tag, by which it is written, and a label, by which reports call
it; a few labels tell more than the tags.
-/

namespace TodoLedger

/-- The kinds of events. -/
inductive EventKind where
  | newIssue
  | updateIssue
  | closeIssue
  | reopenIssue
  | newMergeRequest
  | updateMergeRequest
  | closeMergeRequest
  | reopenMergeRequest
  | mergeMergeRequest
  | reassigned
  | buildFailed
  | push
  | unmergeable
  | awardEmoji
  | newNote
  | updateNote
  | markTodo
  | resolveTodosForTarget
  | targetDestroyed
  | resolveTodos
  | restoreTodos
  | markAllDone
deriving DecidableEq, Repr

namespace EventKind

/-- The kinds in the order of their positions. -/
def all : List EventKind :=
  [.newIssue, .updateIssue, .closeIssue, .reopenIssue, .newMergeRequest, .updateMergeRequest,
    .closeMergeRequest, .reopenMergeRequest, .mergeMergeRequest, .reassigned, .buildFailed, .push,
    .unmergeable, .awardEmoji, .newNote, .updateNote, .markTodo, .resolveTodosForTarget,
    .targetDestroyed, .resolveTodos, .restoreTodos, .markAllDone]

/-- The name by which an event is written. -/
def tag : EventKind → String
  | .newIssue => "new_issue"
  | .updateIssue => "update_issue"
  | .closeIssue => "close_issue"
  | .reopenIssue => "reopen_issue"
  | .newMergeRequest => "new_merge_request"
  | .updateMergeRequest => "update_merge_request"
  | .closeMergeRequest => "close_merge_request"
  | .reopenMergeRequest => "reopen_merge_request"
  | .mergeMergeRequest => "merge_merge_request"
  | .reassigned => "reassigned"
  | .buildFailed => "build_failed"
  | .push => "push"
  | .unmergeable => "unmergeable"
  | .awardEmoji => "award_emoji"
  | .newNote => "new_note"
  | .updateNote => "update_note"
  | .markTodo => "mark_todo"
  | .resolveTodosForTarget => "resolve_todos_for_target"
  | .targetDestroyed => "target_destroyed"
  | .resolveTodos => "resolve_todos"
  | .restoreTodos => "restore_todos"
  | .markAllDone => "mark_all_done"

/-- The name by which reports call an event. -/
def label : EventKind → String
  | .reassigned => "reassigned_assignable"
  | .buildFailed => "merge_request_build_failed"
  | .push => "merge_request_push"
  | .unmergeable => "merge_request_became_unmergeable"
  | .awardEmoji => "new_award_emoji"
  | .targetDestroyed => "destroy_target"
  | kind => kind.tag

/-- The kind that is written so. -/
def ofTag? (tag : String) : Option EventKind := all.find? (·.tag = tag)

/-- A kind is found by its tag. -/
@[simp] theorem ofTag?_tag (kind : EventKind) : ofTag? kind.tag = some kind := by
  cases kind <;> rfl

/-- Every kind is among all. -/
theorem mem_all (kind : EventKind) : kind ∈ all := by cases kind <;> decide

end EventKind

/-- Something that may create or resolve to-dos. -/
inductive Event where
  | newIssue (issue : Issue) (currentUser : UserId)
  /-- The users in `skipUsers` get nothing from this edit. -/
  | updateIssue (issue : Issue) (currentUser : UserId) (previousDescription : Option String)
      (skipUsers : List UserId)
  | closeIssue (issue : Issue) (currentUser : UserId)
  | reopenIssue (issue : Issue) (currentUser : UserId)
  | newMergeRequest (mergeRequest : MergeRequest) (currentUser : UserId)
  | updateMergeRequest (mergeRequest : MergeRequest) (currentUser : UserId)
      (previousDescription : Option String) (skipUsers : List UserId)
  | closeMergeRequest (mergeRequest : MergeRequest) (currentUser : UserId)
  | reopenMergeRequest (mergeRequest : MergeRequest) (currentUser : UserId)
  | mergeMergeRequest (mergeRequest : MergeRequest) (currentUser : UserId)
  /-- The assignees of a target changed. -/
  | reassigned (target : Target) (currentUser : UserId) (oldAssignees : List UserId)
  | buildFailed (mergeRequest : MergeRequest)
  | push (mergeRequest : MergeRequest) (currentUser : UserId)
  | unmergeable (mergeRequest : MergeRequest)
  /-- The acting user reacted to a target. -/
  | awardEmoji (target : Target) (currentUser : UserId)
  | newNote (note : Note) (currentUser : UserId)
  | updateNote (note : Note) (currentUser : UserId) (previousBody : Option String)
      (skipUsers : List UserId)
  /-- The acting user asks for a to-do of their own. -/
  | markTodo (target : Target) (currentUser : UserId)
  | resolveTodosForTarget (target : Target) (currentUser : UserId)
  | targetDestroyed (target : Target)
  | resolveTodos (ids : List TodoId) (currentUser : UserId) (resolvedBy : Resolution)
  | restoreTodos (ids : List TodoId) (currentUser : UserId)
  | markAllDone (currentUser : UserId)
deriving DecidableEq, Repr

namespace Event

/-- What kind of event it is. -/
def kind : Event → EventKind
  | .newIssue .. => .newIssue
  | .updateIssue .. => .updateIssue
  | .closeIssue .. => .closeIssue
  | .reopenIssue .. => .reopenIssue
  | .newMergeRequest .. => .newMergeRequest
  | .updateMergeRequest .. => .updateMergeRequest
  | .closeMergeRequest .. => .closeMergeRequest
  | .reopenMergeRequest .. => .reopenMergeRequest
  | .mergeMergeRequest .. => .mergeMergeRequest
  | .reassigned .. => .reassigned
  | .buildFailed .. => .buildFailed
  | .push .. => .push
  | .unmergeable .. => .unmergeable
  | .awardEmoji .. => .awardEmoji
  | .newNote .. => .newNote
  | .updateNote .. => .updateNote
  | .markTodo .. => .markTodo
  | .resolveTodosForTarget .. => .resolveTodosForTarget
  | .targetDestroyed .. => .targetDestroyed
  | .resolveTodos .. => .resolveTodos
  | .restoreTodos .. => .restoreTodos
  | .markAllDone .. => .markAllDone

/-- Who acts, if anybody does. -/
def actor? : Event → Option UserId
  | .newIssue _ user | .updateIssue _ user _ _ | .closeIssue _ user | .reopenIssue _ user
  | .newMergeRequest _ user | .updateMergeRequest _ user _ _ | .closeMergeRequest _ user
  | .reopenMergeRequest _ user | .mergeMergeRequest _ user | .reassigned _ user _
  | .push _ user | .awardEmoji _ user | .newNote _ user | .updateNote _ user _ _
  | .markTodo _ user | .resolveTodosForTarget _ user | .resolveTodos _ user _
  | .restoreTodos _ user | .markAllDone user => some user
  | .buildFailed _ | .unmergeable _ | .targetDestroyed _ => none

/-- The target that the event is about, if it is about one. -/
def target? : Event → Option Target
  | .newIssue issue _ | .updateIssue issue _ _ _ | .closeIssue issue _
  | .reopenIssue issue _ => some (.issue issue)
  | .newMergeRequest mergeRequest _ | .updateMergeRequest mergeRequest _ _ _
  | .closeMergeRequest mergeRequest _ | .reopenMergeRequest mergeRequest _
  | .mergeMergeRequest mergeRequest _ | .buildFailed mergeRequest | .push mergeRequest _
  | .unmergeable mergeRequest => some (.mergeRequest mergeRequest)
  | .newNote note _ | .updateNote note _ _ _ => some note.noteable
  | .reassigned target _ _ | .awardEmoji target _ | .markTodo target _
  | .resolveTodosForTarget target _ | .targetDestroyed target => some target
  | .resolveTodos .. | .restoreTodos .. | .markAllDone _ => none

end Event

end TodoLedger
