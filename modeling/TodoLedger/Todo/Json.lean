import TodoLedger.Target.Json
import TodoLedger.Todo.Basic

/-!
# To-dos in JSON

To-dos, counts and the outcomes of events as records. An outcome leaves out the restored to-dos
when there are none.
-/

namespace TodoLedger

open Json (Record Setting)

namespace Action

/-- An action is written by its name. -/
def toJson (action : Action) : Json := .string action.name

/-- Reads an action by its name. -/
def ofJson? (setting : Setting) (value : Json) : Option Action :=
  (Json.name? setting value).bind ofName?

end Action

namespace TodoState

/-- A state is written by its name. -/
def toJson (state : TodoState) : Json := .string state.name

/-- Reads a state by its name. -/
def ofJson? (setting : Setting) (value : Json) : Option TodoState :=
  (Json.name? setting value).bind ofName?

end TodoState

namespace Resolution

/-- A resolution is written by its name. -/
def toJson (resolution : Resolution) : Json := .string resolution.name

/-- Reads a resolution by its name. -/
def ofJson? (setting : Setting) (value : Json) : Option Resolution :=
  (Json.name? setting value).bind ofName?

end Resolution

/-- Reads a point in time. -/
def Time.Timestamp.ofJson? (value : Json) : Option Time.Timestamp :=
  value.text?.bind Time.Timestamp.parse?

namespace Todo

/-- The fields of a to-do. -/
def fieldNames : List String :=
  ["id", "user_id", "author_id", "project_id", "target", "note_id", "action", "state",
    "resolved_by_action", "created_at", "updated_at"]

/-- A to-do as an object; the note and the resolution are `null` where there is none. -/
def toJson (todo : Todo) : Json :=
  .object [("id", .ofId todo.id), ("user_id", .ofId todo.userId),
    ("author_id", .ofId todo.authorId), ("project_id", .ofId todo.projectId),
    ("target", todo.target.toJson), ("note_id", Json.ofOption Json.ofId todo.noteId),
    ("action", todo.action.toJson), ("state", todo.state.toJson),
    ("resolved_by_action", Json.ofOption Resolution.toJson todo.resolution),
    ("created_at", .string todo.createdAt.format), ("updated_at", .string todo.updatedAt.format)]

/-- Reads a to-do. The note and the resolution may be missing or `null`. -/
def ofJson? (value : Json) : Option Todo := do
  let r ← Record.ofJson? fieldNames value
  return {
    id := ← r.required "id" Json.id?
    userId := ← r.required "user_id" Json.id?
    authorId := ← r.required "author_id" Json.id?
    projectId := ← r.required "project_id" Json.id?
    target := ← r.required "target" TargetRef.ofJson?
    noteId := ← r.nullable "note_id" Json.id?
    action := ← r.required "action" (Action.ofJson? .direct)
    state := ← r.required "state" (TodoState.ofJson? .direct)
    resolution := ← r.nullable "resolved_by_action" (Resolution.ofJson? .direct)
    createdAt := ← r.required "created_at" Time.Timestamp.ofJson?
    updatedAt := ← r.required "updated_at" Time.Timestamp.ofJson? }

end Todo

namespace Counts

/-- The fields of a user's numbers. -/
def fieldNames : List String := ["pending", "done"]

/-- The numbers of a user's to-dos as an object. -/
def toJson (counts : Counts) : Json :=
  .object [("pending", .ofId counts.pending), ("done", .ofId counts.done)]

/-- Reads the numbers of a user's to-dos. -/
def ofJson? (value : Json) : Option Counts := do
  let r ← Record.ofJson? fieldNames value
  return {
    pending := ← r.required "pending" Json.id?
    done := ← r.required "done" Json.id? }

end Counts

namespace Outcome

/-- The fields of an outcome. -/
def fieldNames : List String := ["created", "resolved", "restored"]

/-- An outcome as an object, without restored to-dos where there are none. -/
def toJson (outcome : Outcome) : Json :=
  .object (("created", .ofIds outcome.created) :: ("resolved", .ofIds outcome.resolved) ::
    if outcome.restored.isEmpty then [] else [("restored", .ofIds outcome.restored)])

/-- Reads an outcome. The restored to-dos may be missing. -/
def ofJson? (value : Json) : Option Outcome := do
  let r ← Record.ofJson? fieldNames value
  return {
    created := ← r.required "created" Json.ids?
    resolved := ← r.required "resolved" Json.ids?
    restored := ← r.withDefault "restored" [] Json.ids? }

end Outcome

end TodoLedger
