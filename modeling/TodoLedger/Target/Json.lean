import TodoLedger.Target.Basic

/-!
# Targets in JSON

A target is a record whose tag `type` is the name of its kind; the other fields are those of the
kind. Fields that say nothing may be missing. What belongs to a target that stands inside of a
tagged record is read as held.
-/

namespace TodoLedger

open Json (Record Setting Tagged)

namespace TargetKind

/-- A kind is written by its name. -/
def toJson (kind : TargetKind) : Json := .string kind.name

/-- Reads a kind by its name. -/
def ofJson? (setting : Setting) (value : Json) : Option TargetKind :=
  (Json.name? setting value).bind ofName?

end TargetKind

namespace TargetRef

/-- The fields of a reference to a target. -/
def fieldNames : List String := ["target_type", "target_id", "commit_id"]

/-- A reference to a target as an object; what the reference lacks is `null`. -/
def toJson (ref : TargetRef) : Json :=
  .object [("target_type", ref.kind.toJson), ("target_id", Json.ofOption Json.ofId ref.targetId),
    ("commit_id", Json.ofOption Json.string ref.commitId)]

/-- Reads a reference to a target. The number and the commit may be missing or `null`. -/
def ofJson? (value : Json) : Option TargetRef := do
  let r ← Record.ofJson? fieldNames value
  return {
    kind := ← r.required "target_type" (TargetKind.ofJson? .direct)
    targetId := ← r.nullable "target_id" Json.id?
    commitId := ← r.nullable "commit_id" Json.text? }

end TargetRef

namespace TargetState

/-- A state is written by its name. -/
def toJson (state : TargetState) : Json := .string state.name

/-- Reads a state by its name. -/
def ofJson? (setting : Setting) (value : Json) : Option TargetState :=
  (Json.name? setting value).bind ofName?

end TargetState

namespace Issue

/-- The fields of an issue. -/
def fieldNames : List String :=
  ["id", "project_id", "author_id", "title", "description", "state", "assignees", "confidential"]

/-- An issue as the fields of an object. -/
def toFields (issue : Issue) : List (String × Json) :=
  [("id", .ofId issue.id), ("project_id", .ofId issue.projectId),
    ("author_id", .ofId issue.authorId), ("title", .string issue.title),
    ("description", .string issue.description), ("state", issue.state.toJson),
    ("assignees", .ofIds issue.assignees), ("confidential", .bool issue.confidential)]

/-- Reads an issue. Only its numbers and its author must be there. -/
def ofJson? (setting : Setting) (value : Json) : Option Issue := do
  let r ← Record.ofJson? fieldNames value
  return {
    id := ← r.required "id" Json.id?
    projectId := ← r.required "project_id" Json.id?
    authorId := ← r.required "author_id" Json.id?
    title := ← r.withDefault "title" "" Json.text?
    description := ← r.withDefault "description" "" Json.text?
    state := ← r.withDefault "state" .opened (TargetState.ofJson? setting)
    assignees := ← r.withDefault "assignees" [] Json.ids?
    confidential := ← r.withDefault "confidential" false Json.bool? }

end Issue

namespace MergeRequest

/-- The fields of a merge request. -/
def fieldNames : List String :=
  ["id", "project_id", "author_id", "title", "description", "state", "assignees",
    "merge_participants"]

/-- A merge request as the fields of an object. -/
def toFields (mergeRequest : MergeRequest) : List (String × Json) :=
  [("id", .ofId mergeRequest.id), ("project_id", .ofId mergeRequest.projectId),
    ("author_id", .ofId mergeRequest.authorId), ("title", .string mergeRequest.title),
    ("description", .string mergeRequest.description), ("state", mergeRequest.state.toJson),
    ("assignees", .ofIds mergeRequest.assignees),
    ("merge_participants", .ofIds mergeRequest.mergeParticipants)]

/-- Reads a merge request. Only its numbers and its author must be there. -/
def ofJson? (setting : Setting) (value : Json) : Option MergeRequest := do
  let r ← Record.ofJson? fieldNames value
  return {
    id := ← r.required "id" Json.id?
    projectId := ← r.required "project_id" Json.id?
    authorId := ← r.required "author_id" Json.id?
    title := ← r.withDefault "title" "" Json.text?
    description := ← r.withDefault "description" "" Json.text?
    state := ← r.withDefault "state" .opened (TargetState.ofJson? setting)
    assignees := ← r.withDefault "assignees" [] Json.ids?
    mergeParticipants := ← r.withDefault "merge_participants" [] Json.ids? }

end MergeRequest

namespace Commit

/-- The fields of a commit. -/
def fieldNames : List String := ["sha", "project_id", "author_id", "message"]

/-- A commit as the fields of an object; an author who is not known is `null`. -/
def toFields (commit : Commit) : List (String × Json) :=
  [("sha", .string commit.sha), ("project_id", .ofId commit.projectId),
    ("author_id", Json.ofOption Json.ofId commit.authorId), ("message", .string commit.message)]

/-- Reads a commit. The author may be missing or `null`, and the message may be missing. -/
def ofJson? (value : Json) : Option Commit := do
  let r ← Record.ofJson? fieldNames value
  return {
    sha := ← r.required "sha" Json.text?
    projectId := ← r.required "project_id" Json.id?
    authorId := ← r.withDefault "author_id" none (Json.option? Json.id?)
    message := ← r.withDefault "message" "" Json.text? }

end Commit

namespace Alert

/-- The fields of an alert. -/
def fieldNames : List String :=
  ["id", "project_id", "title", "description", "state", "assignees"]

/-- An alert as the fields of an object. -/
def toFields (alert : Alert) : List (String × Json) :=
  [("id", .ofId alert.id), ("project_id", .ofId alert.projectId), ("title", .string alert.title),
    ("description", .string alert.description), ("state", alert.state.toJson),
    ("assignees", .ofIds alert.assignees)]

/-- Reads an alert. Only its numbers must be there. -/
def ofJson? (setting : Setting) (value : Json) : Option Alert := do
  let r ← Record.ofJson? fieldNames value
  return {
    id := ← r.required "id" Json.id?
    projectId := ← r.required "project_id" Json.id?
    title := ← r.withDefault "title" "" Json.text?
    description := ← r.withDefault "description" "" Json.text?
    state := ← r.withDefault "state" .opened (TargetState.ofJson? setting)
    assignees := ← r.withDefault "assignees" [] Json.ids? }

end Alert

namespace Design

/-- The fields of a design. -/
def fieldNames : List String := ["id", "filename", "issue"]

/-- A design as the fields of an object, with the issue that it belongs to. -/
def toFields (design : Design) : List (String × Json) :=
  [("id", .ofId design.id), ("filename", .string design.filename),
    ("issue", .object design.issue.toFields)]

/-- Reads a design. All fields must be there. -/
def ofJson? (setting : Setting) (value : Json) : Option Design := do
  let r ← Record.ofJson? fieldNames value
  return {
    id := ← r.required "id" Json.id?
    filename := ← r.required "filename" Json.text?
    issue := ← r.required "issue" (Issue.ofJson? setting) }

end Design

namespace ProjectSnippet

/-- The fields of a snippet. -/
def fieldNames : List String := ["id", "project_id", "author_id", "content"]

/-- A snippet as the fields of an object. -/
def toFields (snippet : ProjectSnippet) : List (String × Json) :=
  [("id", .ofId snippet.id), ("project_id", .ofId snippet.projectId),
    ("author_id", .ofId snippet.authorId), ("content", .string snippet.content)]

/-- Reads a snippet. The content may be missing. -/
def ofJson? (value : Json) : Option ProjectSnippet := do
  let r ← Record.ofJson? fieldNames value
  return {
    id := ← r.required "id" Json.id?
    projectId := ← r.required "project_id" Json.id?
    authorId := ← r.required "author_id" Json.id?
    content := ← r.withDefault "content" "" Json.text? }

end ProjectSnippet

namespace Target

/-- The fields of the target without its tag. -/
def toFields : Target → List (String × Json)
  | .issue i => i.toFields
  | .mergeRequest mr => mr.toFields
  | .commit c => c.toFields
  | .alert a => a.toFields
  | .design d => d.toFields
  | .projectSnippet s => s.toFields

/-- A target as an object: the name of its kind, and then its fields. -/
def toJson (target : Target) : Json :=
  .object (("type", target.kind.toJson) :: target.toFields)

/-- Reads the fields of a target of a known kind. -/
def ofFields? (kind : TargetKind) (value : Json) : Option Target :=
  match kind with
  | .issue => (Issue.ofJson? .held value).map .issue
  | .mergeRequest => (MergeRequest.ofJson? .held value).map .mergeRequest
  | .commit => (Commit.ofJson? value).map .commit
  | .alert => (Alert.ofJson? .held value).map .alert
  | .design => (Design.ofJson? .held value).map .design
  | .projectSnippet => (ProjectSnippet.ofJson? value).map .projectSnippet

/-- Reads a target: the name of the kind tells which fields to read. -/
def ofJson? (setting : Setting) (value : Json) : Option Target := do
  let tagged ← Tagged.ofJson? "type" value
  let name ← Json.tag? setting (TargetKind.all.map (·.name)) tagged.tag
  let kind ← TargetKind.ofName? name
  ofFields? kind tagged.rest

end Target

namespace Note

/-- The fields of a note. -/
def fieldNames : List String := ["id", "author_id", "body", "system", "noteable"]

/-- A note as the fields of an object. -/
def toFields (note : Note) : List (String × Json) :=
  [("id", .ofId note.id), ("author_id", .ofId note.authorId), ("body", .string note.body),
    ("system", .bool note.system), ("noteable", note.noteable.toJson)]

/-- Reads a note. Only the mark of a system's note may be missing. -/
def ofJson? (setting : Setting) (value : Json) : Option Note := do
  let r ← Record.ofJson? fieldNames value
  return {
    id := ← r.required "id" Json.id?
    authorId := ← r.required "author_id" Json.id?
    body := ← r.required "body" Json.text?
    system := ← r.withDefault "system" false Json.bool?
    noteable := ← r.required "noteable" (Target.ofJson? setting) }

end Note

end TodoLedger
