import TodoLedger.Project

/-!
# Targets

A target is what a to-do points at: an issue, a merge request, a commit, an alert, a design or a
snippet of a project. A to-do keeps only the target's reference, `TargetRef`: its kind with the id
of its row or, for a commit, with the hash. `Target.validate` says which targets have a reference
that a to-do can keep.
-/

namespace TodoLedger

/-! ### Kinds and references -/

/-- What kind of thing a target is. -/
inductive TargetKind where
  | issue
  | mergeRequest
  | commit
  | alert
  | design
  | projectSnippet
deriving DecidableEq, Repr

namespace TargetKind

/-- All kinds of targets. -/
def all : List TargetKind := [.issue, .mergeRequest, .commit, .alert, .design, .projectSnippet]

/-- The name under which a kind is written. -/
def name : TargetKind → String
  | .issue => "issue"
  | .mergeRequest => "merge_request"
  | .commit => "commit"
  | .alert => "alert"
  | .design => "design"
  | .projectSnippet => "project_snippet"

/-- The kind of that name. -/
def ofName? (name : String) : Option TargetKind := all.find? (·.name = name)

/-- A kind is found by its name. -/
@[simp] theorem ofName?_name (kind : TargetKind) : ofName? kind.name = some kind := by
  cases kind <;> rfl

/-- Only the name of a kind finds it. -/
theorem name_of_ofName? {name : String} {kind : TargetKind} (h : ofName? name = some kind) :
    name = kind.name := by
  rw [ofName?] at h
  have hname := List.find?_some h
  exact (of_decide_eq_true hname).symm

/-- Kinds are told apart by their names. -/
theorem name_injective {a b : TargetKind} (h : a.name = b.name) : a = b := by
  have := ofName?_name a
  rw [h, ofName?_name b] at this
  exact (Option.some.inj this).symm

end TargetKind

/-- The identity of a target as a to-do keeps it. A commit has no row and is known by its hash. -/
structure TargetRef where
  kind : TargetKind
  targetId : Option UInt64
  commitId : Option String
deriving DecidableEq, Repr

namespace TargetRef

/-- The reference of a target that has a row. -/
def row (kind : TargetKind) (id : UInt64) : TargetRef := ⟨kind, some id, none⟩

/-- The reference of a commit. -/
def commit (sha : String) : TargetRef := ⟨.commit, none, some sha⟩

/-- The reference as a short text. -/
def display (ref : TargetRef) : String :=
  match ref.targetId, ref.commitId with
  | some id, _ => ref.kind.name ++ "#" ++ toString id.toNat
  | none, some sha => ref.kind.name ++ "@" ++ sha
  | none, none => ref.kind.name ++ "#?"

end TargetRef

/-! ### Targets -/

/-- Whether work on a target goes on. -/
inductive TargetState where
  | opened
  | closed
  | merged
deriving DecidableEq, Repr

namespace TargetState

/-- All states of targets. -/
def all : List TargetState := [.opened, .closed, .merged]

/-- The name under which a state is written. -/
def name : TargetState → String
  | .opened => "opened"
  | .closed => "closed"
  | .merged => "merged"

/-- The state of that name. -/
def ofName? (name : String) : Option TargetState := all.find? (·.name = name)

/-- A state is found by its name. -/
@[simp] theorem ofName?_name (state : TargetState) : ofName? state.name = some state := by
  cases state <;> rfl

end TargetState

/-- An issue. -/
structure Issue where
  id : UInt64
  projectId : ProjectId
  authorId : UserId
  title : String := ""
  description : String := ""
  state : TargetState := .opened
  assignees : List UserId := []
  confidential : Bool := false
deriving DecidableEq, Repr

/-- A merge request. -/
structure MergeRequest where
  id : UInt64
  projectId : ProjectId
  authorId : UserId
  title : String := ""
  description : String := ""
  state : TargetState := .opened
  assignees : List UserId := []
  /-- The users who work on getting it merged. -/
  mergeParticipants : List UserId := []
deriving DecidableEq, Repr

/-- A commit. -/
structure Commit where
  sha : String
  projectId : ProjectId
  authorId : Option UserId := none
  message : String := ""
deriving DecidableEq, Repr

/-- An alert. -/
structure Alert where
  id : UInt64
  projectId : ProjectId
  title : String := ""
  description : String := ""
  state : TargetState := .opened
  assignees : List UserId := []
deriving DecidableEq, Repr

/-- A design of an issue, to be seen by whoever may see the issue. -/
structure Design where
  id : UInt64
  filename : String
  issue : Issue
deriving DecidableEq, Repr

/-- A snippet of a project, on which there are no to-dos. -/
structure ProjectSnippet where
  id : UInt64
  projectId : ProjectId
  authorId : UserId
  content : String := ""
deriving DecidableEq, Repr

/-- A thing that to-dos may point at. -/
inductive Target where
  | issue (issue : Issue)
  | mergeRequest (mergeRequest : MergeRequest)
  | commit (commit : Commit)
  | alert (alert : Alert)
  | design (design : Design)
  | projectSnippet (snippet : ProjectSnippet)
deriving DecidableEq, Repr

/-- Why a to-do cannot point at a target. -/
inductive TargetFlaw where
  /-- The hash of a commit is no object id. -/
  | malformedSha (sha : String)
  /-- The id of the row is zero. -/
  | noIdentity (ref : TargetRef)
  /-- The id of the project is zero. -/
  | noProject (ref : TargetRef)
  /-- A stored reference has a kind of target that does not exist. -/
  | unknownKind (name : String)
deriving DecidableEq, Repr

/-- The flaw in words. -/
def TargetFlaw.message : TargetFlaw → String
  | .malformedSha sha => "commit sha '" ++ sha ++ "' is not a valid object id"
  | .noIdentity ref => ref.display ++ " has no row identity"
  | .noProject ref => ref.display ++ " has no owning project"
  | .unknownKind name => "unknown target type '" ++ name ++ "'"

namespace Target

/-- What kind of target it is. -/
def kind : Target → TargetKind
  | .issue _ => .issue
  | .mergeRequest _ => .mergeRequest
  | .commit _ => .commit
  | .alert _ => .alert
  | .design _ => .design
  | .projectSnippet _ => .projectSnippet

/-- What a to-do keeps of the target. -/
def reference : Target → TargetRef
  | .issue i => .row .issue i.id
  | .mergeRequest mr => .row .mergeRequest mr.id
  | .commit c => .commit c.sha
  | .alert a => .row .alert a.id
  | .design d => .row .design d.id
  | .projectSnippet s => .row .projectSnippet s.id

/-- The project that the target belongs to. -/
def projectId : Target → ProjectId
  | .issue i => i.projectId
  | .mergeRequest mr => mr.projectId
  | .commit c => c.projectId
  | .alert a => a.projectId
  | .design d => d.issue.projectId
  | .projectSnippet s => s.projectId

/-- The text in which mentions count when the target itself is created or edited. -/
def text : Target → String
  | .issue i => i.description
  | .mergeRequest mr => mr.description
  | .commit c => c.message
  | .alert a => a.description
  | .design _ => ""
  | .projectSnippet s => s.content

/-- The users to whom the target is assigned. -/
def assignees : Target → List UserId
  | .issue i => i.assignees
  | .mergeRequest mr => mr.assignees
  | .alert a => a.assignees
  | .commit _ | .design _ | .projectSnippet _ => []

/-- True of a confidential issue and of the designs of one. -/
def isConfidential : Target → Bool
  | .issue i => i.confidential
  | .design d => d.issue.confidential
  | _ => false

/-- The users who work on getting the target merged. -/
def mergeParticipants : Target → List UserId
  | .mergeRequest mr => mr.mergeParticipants
  | _ => []

/-- False of snippets, on which there are no to-dos. -/
def acceptsTodos : Target → Bool
  | .projectSnippet _ => false
  | _ => true

/-- True of the hexadecimal digits. -/
def isHexDigit (c : Char) : Bool :=
  c.isDigit || ('a' ≤ c && c ≤ 'f') || ('A' ≤ c && c ≤ 'F')

/-- True of the hashes that name a commit: 7 to 64 hexadecimal digits. -/
def isObjectId (sha : String) : Bool :=
  let digits := sha.toList
  7 ≤ digits.length && digits.length ≤ 64 && digits.all isHexDigit

/-- Checks the part of the target's reference that stands for its row. -/
def validateIdentity (target : Target) : Except TargetFlaw Unit :=
  match target with
  | .commit c => if isObjectId c.sha then .ok () else .error (.malformedSha c.sha)
  | _ =>
    if target.reference.targetId = some 0 then .error (.noIdentity target.reference) else .ok ()

/-- Checks that a to-do can point at the target: it has an identity, and a project. -/
def validate (target : Target) : Except TargetFlaw Unit :=
  match target.validateIdentity with
  | .error flaw => .error flaw
  | .ok () => if target.projectId = 0 then .error (.noProject target.reference) else .ok ()

end Target

/-! ### Notes -/

/-- A comment on a target. -/
structure Note where
  id : UInt64
  authorId : UserId
  body : String
  /-- Written by the system itself. -/
  system : Bool := false
  noteable : Target
deriving DecidableEq, Repr

/-- True of the notes that make to-dos: those that a person wrote on a target that has to-dos. -/
def Note.canCreateTodo (note : Note) : Bool := !note.system && note.noteable.acceptsTodos

end TodoLedger
