import TodoLedger.Event.Basic
import TodoLedger.Json.Parser
import TodoLedger.Todo.Json

/-!
# Events in JSON

An event is a record whose tag `event` is the tag of its kind. What an update replaced, whom it
skips, the former assignees and the way of resolving may be missing. `Event.listOfText?` reads a
text that holds a list of events.
-/

namespace TodoLedger

open Json (Record Tagged)

namespace EventKind

/-- The fields of the events of a kind, in declared order. -/
def fieldNames : EventKind → List String
  | .newIssue | .closeIssue | .reopenIssue => ["issue", "current_user"]
  | .updateIssue => ["issue", "current_user", "previous_description", "skip_users"]
  | .newMergeRequest | .closeMergeRequest | .reopenMergeRequest | .mergeMergeRequest | .push =>
    ["merge_request", "current_user"]
  | .updateMergeRequest => ["merge_request", "current_user", "previous_description", "skip_users"]
  | .reassigned => ["target", "current_user", "old_assignees"]
  | .buildFailed | .unmergeable => ["merge_request"]
  | .awardEmoji | .markTodo | .resolveTodosForTarget => ["target", "current_user"]
  | .newNote => ["note", "current_user"]
  | .updateNote => ["note", "current_user", "previous_body", "skip_users"]
  | .targetDestroyed => ["target"]
  | .resolveTodos => ["ids", "current_user", "resolved_by"]
  | .restoreTodos => ["ids", "current_user"]
  | .markAllDone => ["current_user"]

end EventKind

namespace Event

/-! ### Writing -/

/-- The field that holds an issue. -/
def issueField (issue : Issue) : String × Json := ("issue", .object issue.toFields)

/-- The field that holds a merge request. -/
def mergeRequestField (mergeRequest : MergeRequest) : String × Json :=
  ("merge_request", .object mergeRequest.toFields)

/-- The field that holds a target of any kind. -/
def targetField (target : Target) : String × Json := ("target", target.toJson)

/-- The field that holds a note. -/
def noteField (note : Note) : String × Json := ("note", .object note.toFields)

/-- The field that names who acts. -/
def currentUserField (user : UserId) : String × Json := ("current_user", .ofId user)

/-- The fields of the event without its tag. -/
def toFields : Event → List (String × Json)
  | .newIssue issue user | .closeIssue issue user | .reopenIssue issue user =>
    [issueField issue, currentUserField user]
  | .updateIssue issue user previous skip =>
    [issueField issue, currentUserField user,
      ("previous_description", Json.ofOption Json.string previous), ("skip_users", .ofIds skip)]
  | .newMergeRequest mergeRequest user | .closeMergeRequest mergeRequest user
  | .reopenMergeRequest mergeRequest user | .mergeMergeRequest mergeRequest user
  | .push mergeRequest user => [mergeRequestField mergeRequest, currentUserField user]
  | .updateMergeRequest mergeRequest user previous skip =>
    [mergeRequestField mergeRequest, currentUserField user,
      ("previous_description", Json.ofOption Json.string previous), ("skip_users", .ofIds skip)]
  | .reassigned target user old =>
    [targetField target, currentUserField user, ("old_assignees", .ofIds old)]
  | .buildFailed mergeRequest | .unmergeable mergeRequest => [mergeRequestField mergeRequest]
  | .awardEmoji target user | .markTodo target user | .resolveTodosForTarget target user =>
    [targetField target, currentUserField user]
  | .newNote note user => [noteField note, currentUserField user]
  | .updateNote note user previous skip =>
    [noteField note, currentUserField user, ("previous_body", Json.ofOption Json.string previous),
      ("skip_users", .ofIds skip)]
  | .targetDestroyed target => [targetField target]
  | .resolveTodos ids user resolvedBy =>
    [("ids", .ofIds ids), currentUserField user, ("resolved_by", resolvedBy.toJson)]
  | .restoreTodos ids user => [("ids", .ofIds ids), currentUserField user]
  | .markAllDone user => [currentUserField user]

/-- An event as an object: its tag, and then its fields. -/
def toJson (event : Event) : Json := .object (("event", .string event.kind.tag) :: event.toFields)

/-! ### Reading -/

/-- Reads the issue. -/
def issue? (r : Record) : Option Issue := r.required "issue" (Issue.ofJson? .held)

/-- Reads the merge request. -/
def mergeRequest? (r : Record) : Option MergeRequest :=
  r.required "merge_request" (MergeRequest.ofJson? .held)

/-- Reads the target. -/
def targetOf? (r : Record) : Option Target := r.required "target" (Target.ofJson? .held)

/-- Reads the note. -/
def note? (r : Record) : Option Note := r.required "note" (Note.ofJson? .held)

/-- Reads who acts. -/
def currentUser? (r : Record) : Option UserId := r.required "current_user" Json.id?

/-- A text that may be missing or `null`. -/
def previous? (r : Record) (name : String) : Option (Option String) :=
  r.withDefault name none (Json.option? Json.text?)

/-- Reads the users to skip, who may be missing. -/
def skipUsers? (r : Record) : Option (List UserId) := r.withDefault "skip_users" [] Json.ids?

/-- Reads the fields of an event of a known kind. -/
def ofRecord? (kind : EventKind) (r : Record) : Option Event :=
  match kind with
  | .newIssue => do return .newIssue (← issue? r) (← currentUser? r)
  | .updateIssue => do
    return .updateIssue (← issue? r) (← currentUser? r) (← previous? r "previous_description")
      (← skipUsers? r)
  | .closeIssue => do return .closeIssue (← issue? r) (← currentUser? r)
  | .reopenIssue => do return .reopenIssue (← issue? r) (← currentUser? r)
  | .newMergeRequest => do return .newMergeRequest (← mergeRequest? r) (← currentUser? r)
  | .updateMergeRequest => do
    return .updateMergeRequest (← mergeRequest? r) (← currentUser? r)
      (← previous? r "previous_description") (← skipUsers? r)
  | .closeMergeRequest => do return .closeMergeRequest (← mergeRequest? r) (← currentUser? r)
  | .reopenMergeRequest => do return .reopenMergeRequest (← mergeRequest? r) (← currentUser? r)
  | .mergeMergeRequest => do return .mergeMergeRequest (← mergeRequest? r) (← currentUser? r)
  | .reassigned => do
    return .reassigned (← targetOf? r) (← currentUser? r)
      (← r.withDefault "old_assignees" [] Json.ids?)
  | .buildFailed => do return .buildFailed (← mergeRequest? r)
  | .push => do return .push (← mergeRequest? r) (← currentUser? r)
  | .unmergeable => do return .unmergeable (← mergeRequest? r)
  | .awardEmoji => do return .awardEmoji (← targetOf? r) (← currentUser? r)
  | .newNote => do return .newNote (← note? r) (← currentUser? r)
  | .updateNote => do
    return .updateNote (← note? r) (← currentUser? r) (← previous? r "previous_body")
      (← skipUsers? r)
  | .markTodo => do return .markTodo (← targetOf? r) (← currentUser? r)
  | .resolveTodosForTarget => do
    return .resolveTodosForTarget (← targetOf? r) (← currentUser? r)
  | .targetDestroyed => do return .targetDestroyed (← targetOf? r)
  | .resolveTodos => do
    return .resolveTodos (← r.required "ids" Json.ids?) (← currentUser? r)
      (← r.withDefault "resolved_by" .apiDone (Resolution.ofJson? .held))
  | .restoreTodos => do
    return .restoreTodos (← r.required "ids" Json.ids?) (← currentUser? r)
  | .markAllDone => do return .markAllDone (← currentUser? r)

/-- Reads an event: the tag tells which fields to read. -/
def ofJson? (value : Json) : Option Event := do
  let tagged ← Tagged.ofJson? "event" value
  let name ← Json.tag? .direct (EventKind.all.map (·.tag)) tagged.tag
  let kind ← EventKind.ofTag? name
  let r ← Record.ofJson? kind.fieldNames tagged.rest
  ofRecord? kind r

/-- Reads a text that holds a list of events. -/
def listOfText? (text : String) : Option (List Event) :=
  (Json.parse text).bind (Json.list? ofJson?)

end Event

end TodoLedger
