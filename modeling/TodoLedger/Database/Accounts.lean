import TodoLedger.Access
import TodoLedger.Ascending
import TodoLedger.Database.Row

/-!
# Users, projects and members

The tables beside the ledger. No two users share a handle and no two projects a name; a user is a
member of a project once, with one level, and both must exist when the membership starts.
`Database.canSee` answers who sees a target, from these tables and the access policy.
-/

namespace TodoLedger.Database

/-! ### Users -/

/-- The row of a user. -/
def userRow? (db : Database) (id : UserId) : Option UserRow := db.users.find? (·.id = rowId id)

/-- The user with that id. -/
def user? (db : Database) (id : UserId) : Option User := (db.userRow? id).map UserRow.read

/-- The id of the user with that handle. -/
def userId? (db : Database) (handle : String) : Option UserId :=
  (db.users.find? (·.handle = handle)).map (idOfRow ·.id)

/-- The greatest number of values in one statement. -/
def maxVariables : Nat := 32766

/-- The ids of the users with some handles. All of them are looked for in one statement, with a value
for each handle. -/
def userIds? (db : Database) (handles : List String) : Except Fault (String → Option UserId) :=
  if handles.length ≤ maxVariables then .ok db.userId? else .error ⟨[], .tooManyVariables⟩

/-- All handles, in the order of their characters. -/
def handles (db : Database) : List String := ascending (db.users.map (·.handle))

/-- The cached numbers of a user's to-dos. -/
def cachedCounts (db : Database) (id : UserId) : Except Fault Counts :=
  match db.userRow? id with
  | some row => .ok row.counts
  | none => .error (.stated ("User " ++ toString id.toNat ++ " not found"))

/-- Adds a user, who has no to-dos. -/
def createUser (db : Database) (handle : String) (admin : Bool) : Except Fault (Database × UserId) :=
  match freeRowId? (db.users.map (·.id)) with
  | none => .error ⟨[.createUser handle], .refused⟩
  | some id =>
    if db.users.any (·.handle = handle) then .error ⟨[.createUser handle], .unique⟩
    else .ok ({ db with users := db.users ++ [{ id, handle, admin }] }, idOfRow id)

/-! ### Projects -/

/-- The row of a project. -/
def projectRow? (db : Database) (id : ProjectId) : Option ProjectRow :=
  db.projects.find? (·.id = rowId id)

/-- The project with that id. -/
def project? (db : Database) (id : ProjectId) : Except Fault (Option Project) :=
  match db.projectRow? id with
  | none => .ok none
  | some row =>
    match row.read with
    | .ok project => .ok (some project)
    | .error cause => .error ⟨[.loadProject id], cause⟩

/-- Adds a project. -/
def createProject (db : Database) (name : String) (visibility : Visibility)
    (repositoryPrivate : Bool) : Except Fault (Database × ProjectId) :=
  match freeRowId? (db.projects.map (·.id)) with
  | none => .error ⟨[.createProject name], .refused⟩
  | some id =>
    if db.projects.any (·.name = name) then .error ⟨[.createProject name], .unique⟩
    else
      let row : ProjectRow :=
        ⟨id, name, visibility.name, .integer (if repositoryPrivate then 1 else 0)⟩
      .ok ({ db with projects := db.projects ++ [row] }, idOfRow id)

/-! ### Members -/

/-- True of the row of that membership. -/
def isMembership (project : ProjectId) (user : UserId) (row : MemberRow) : Bool :=
  row.projectId = .ofId project && row.userId = .ofId user

/-- The level of a user in a project, if they are a member. -/
def memberLevel? (db : Database) (project : ProjectId) (user : UserId) :
    Except Fault (Option AccessLevel) :=
  match db.members.find? (isMembership project user) with
  | none => .ok none
  | some row =>
    match row.readLevel with
    | .ok level => .ok (some level)
    | .error cause => .error ⟨[], cause⟩

/-- The members of a project by user. -/
def membersOf (db : Database) (project : ProjectId) : Except Fault (List Member) :=
  let rows := db.members.filter (·.projectId = .ofId project)
  match (rows.mergeSort fun a b => !b.userId.isBelow a.userId).mapM MemberRow.read with
  | .ok members => .ok members
  | .error cause => .error ⟨[], cause⟩

/-- Gives a member another level, or makes the user a member. -/
def setMember (db : Database) (project : ProjectId) (user : UserId) (level : AccessLevel) :
    Except Fault Database :=
  if db.members.any (isMembership project user) then
    .ok { db with
      members := db.members.map fun row =>
        if isMembership project user row then { row with accessLevel := .integer level.code } else row }
  else if (db.userRow? user).isSome && (db.projectRow? project).isSome then
    .ok { db with members := db.members ++ [⟨.ofId project, .ofId user, .integer level.code⟩] }
  else .error ⟨[.addMember user project], .foreignKey⟩

/-! ### Who sees a target -/

/-- True when the user may read the target. Nobody who is no user sees anything; a target whose
project does not exist is an error. -/
def canSee (db : Database) (user : UserId) (target : Target) : Except Fault Bool :=
  match db.user? user with
  | none => .ok false
  | some account => do
    let project ← match db.project? target.projectId with
      | .ok (some project) => pure project
      | .ok none =>
        throw (.stated ("Project " ++ toString target.projectId.toNat ++ " not found"))
      | .error fault => throw (fault.within (.loadProject target.projectId))
    let level ← db.memberLevel? target.projectId user
    return Viewer.canRead ⟨user, account.admin, level⟩ project target

end TodoLedger.Database
