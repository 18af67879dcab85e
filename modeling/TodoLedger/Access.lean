import TodoLedger.Target.Basic

/-!
# Who may read a target

`canRead` is the access policy of a project. Issues and designs follow the project, with
confidential ones kept to members from reporter up, to the author and to the assignees. Merge
requests and commits follow the repository. Alerts are for members from reporter up. Administrators
read everything but snippets, which nobody gets a to-do on.
-/

namespace TodoLedger

/-- A reader as a project sees them. -/
structure Viewer where
  userId : UserId
  admin : Bool
  /-- The reader's level in the project, if they are a member. -/
  level : Option AccessLevel
deriving DecidableEq, Repr

namespace Viewer

/-- True of members whose level includes `least`. -/
def hasLevel (viewer : Viewer) (least : AccessLevel) : Bool :=
  viewer.level.any (·.atLeast least)

/-- A project is read by its members and, unless it is kept to them, by everybody. -/
def canReadProject (viewer : Viewer) (project : Project) : Bool :=
  project.visibility ≠ .membersOnly || viewer.level.isSome

/-- A confidential issue is read by members from reporter up, its author and its assignees. -/
def canReadConfidential (viewer : Viewer) (issue : Issue) : Bool :=
  viewer.hasLevel .reporter || issue.authorId = viewer.userId ||
    issue.assignees.contains viewer.userId

/-- An issue of a project is read by those who read the project and, if it is confidential, may
read that. -/
def canReadIssue (viewer : Viewer) (project : Project) (issue : Issue) : Bool :=
  viewer.canReadProject project && (!issue.confidential || viewer.canReadConfidential issue)

/-- The repository is read by members from reporter up. In a project that is not kept to its
members it is read by every member and, unless it is kept to them, by everybody. -/
def canReadCode (viewer : Viewer) (project : Project) : Bool :=
  match viewer.level with
  | some level => level.atLeast .reporter || project.visibility ≠ .membersOnly
  | none => project.visibility ≠ .membersOnly && !project.repositoryPrivate

/-- The access policy. -/
def canRead (viewer : Viewer) (project : Project) (target : Target) : Bool :=
  target.acceptsTodos &&
    (viewer.admin ||
      match target with
      | .issue issue => viewer.canReadIssue project issue
      | .design design => viewer.canReadIssue project design.issue
      | .mergeRequest _ | .commit _ => viewer.canReadCode project
      | .alert _ => viewer.hasLevel .reporter
      | .projectSnippet _ => false)

end Viewer

end TodoLedger
