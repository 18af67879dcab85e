import TodoLedger.Database.Snapshot
import TodoLedger.Event.Json
import TodoLedger.Json.Printer
import TodoLedger.Program.Arguments
import TodoLedger.Program.Location
import TodoLedger.Service.Handle
import TodoLedger.Todo.Json

/-!
# The program

`run` does what the arguments ask for: it opens the database of the configuration, carries out the
command, and stores the database. What it needs from outside is a `Host`, in any monad. A command
that fails keeps what it did to the database before.
-/

namespace TodoLedger.Program

/-- What the program finds outside. -/
structure Host (n : Type → Type) where
  /-- Where relative paths start. -/
  directory : String
  /-- Reads the clock: the present, in seconds from the start of 1970. -/
  now : n Int64
  isDirectory : String → n Bool
  /-- True of a path that leads to a file or a directory. -/
  exists? : String → n Bool
  /-- The text of a file, if it can be read. -/
  readText? : String → n (Option String)
  loadDatabase : String → n Stored
  saveDatabase : String → Snapshot → n Unit

/-- Why the program fails. -/
inductive Failure where
  | config (flaw : Config.Flaw)
  | fault (fault : Fault)
  | ledger (error : Error)
  | unknownUser (handle : String)
  | unknownProject (id : ProjectId)
  | eventsFailed (failed total : Nat)
deriving DecidableEq, Repr

/-- The failure in words. -/
def Failure.message : Failure → String
  | .config f => f.message
  | .fault f => f.message
  | .ledger error => error.message
  | .unknownUser handle => "Unknown user '" ++ handle ++ "'"
  | .unknownProject id => "Unknown project " ++ toString id.toNat
  | .eventsFailed failed total => toString failed ++ " of " ++ toString total ++ " event(s) failed"

/-- What the program gives back. -/
structure Report where
  /-- What it prints, line by line. -/
  lines : List String := []
  failure : Option Failure := none
  /-- The exit code. -/
  code : UInt32 := 0

/-! ### Lines -/

/-- A text with blanks in front, up to a width. -/
def padLeft (width : Nat) (text : String) : String := "".pushn ' ' (width - text.length) ++ text

/-- A text with blanks behind, up to a width. -/
def padRight (width : Nat) (text : String) : String := text.pushn ' ' (width - text.length)

/-- A to-do in a list. -/
def todoLine (todo : Todo) : String :=
  "  ".intercalate [padLeft 6 (toString todo.id.toNat), padRight 7 todo.state.name,
    padRight 18 todo.action.name, padRight 24 todo.target.display,
    "by " ++ toString todo.authorId.toNat]

/-- A member in a list. -/
def memberLine (member : Member) : String :=
  padLeft 6 (toString member.userId.toNat) ++ "  " ++ member.level.title

/-- The numbers of to-dos, as cached and as counted. -/
def countLines (cached counted : Counts) : List String :=
  let line (title : String) (cached counted : UInt64) : String :=
    title ++ toString cached.toNat ++ " (rows: " ++ toString counted.toNat ++ ")"
  [line "pending: " cached.pending counted.pending, line "done:    " cached.done counted.done]

/-- The outcomes of events that went well, each with the place of its event. -/
def outcomeLines (events : List Event) (results : List (Except Error Outcome)) : List String :=
  ((events.zip results).zipIdx).filterMap fun ((event, result), place) =>
    match result with
    | .ok outcome =>
      some (toString place ++ " " ++ event.kind.label ++ ": " ++ outcome.toJson.compact)
    | .error _ => none

/-! ### Commands -/

/-- What a command did. -/
structure Done where
  state : Service.State
  lines : List String := []
  failure : Option Failure := none

namespace Done

/-- A command that fails without having done anything. -/
def failed (s : Service.State) (failure : Failure) : Done := { state := s, failure := some failure }

/-- A command that changes the database, or fails. -/
def ofChange {α : Type} (s : Service.State) (lines : α → List String) :
    Except Fault (Database × α) → Done
  | .ok (database, value) => { state := { s with database }, lines := lines value }
  | .error fault => failed s (.fault fault)

/-- A command that asks, or fails. -/
def ofAnswer {α : Type} (s : Service.State) (lines : α → List String) : Except Fault α → Done
  | .ok value => { state := s, lines := lines value }
  | .error fault => failed s (.fault fault)

/-- An event of one user, by what it did. -/
def ofEvent (lines : Outcome → List String) : Except Error Outcome × Service.State → Done
  | (.ok outcome, s) => { state := s, lines := lines outcome }
  | (.error error, s) => failed s (.ledger error)

/-- What a replay of events gave. -/
def ofReplay (events : List Event) : List (Except Error Outcome) × Service.State → Done
  | (results, after) =>
    let failed := (results.filter (!·.isOk)).length
    { state := after
      lines := outcomeLines events results
      failure := if failed = 0 then none else some (.eventsFailed failed events.length) }

end Done

section Commands

variable {n : Type → Type} [Monad n] (settings : Service.Settings) (clock : n Int64)

/-- Looks up a user for a command. -/
def withUser (s : Service.State) (handle : String) (command : UserId → n Done) : n Done :=
  match s.database.userId? handle with
  | some user => command user
  | none => return .failed s (.unknownUser handle)

/-- Handles an event of one user, and shows what it did. -/
def handleEvent (event : Event) (lines : Outcome → List String) (s : Service.State) : n Done := do
  let now ← clock
  return .ofEvent lines (Service.handle (n := Id) (.builtIn settings) settings now event s)

/-- Makes a user a member of a project that exists. -/
def addMember (s : Service.State) (project : ProjectId) (user : UserId) (level : AccessLevel) :
    Done :=
  match s.database.project? project with
  | .error fault => .failed s (.fault fault)
  | .ok none => .failed s (.unknownProject project)
  | .ok (some _) =>
    .ofChange s (fun () => []) ((s.database.setMember project user level).map (·, ()))

/-- Shows the numbers of a user's to-dos. -/
def showCounts (s : Service.State) (user : UserId) : Done :=
  match s.database.cachedCounts user, s.database.countTodos user with
  | .error fault, _ => .failed s (.fault fault)
  | .ok _, .error error => .failed s (.ledger error)
  | .ok cached, .ok counted => { state := s, lines := countLines cached counted }

/-- Handles the events in a text. The clock is read for each of them. -/
def replay (path : String) (text : Option String) (s : Service.State) : n Done := do
  match text with
  | none => return .failed s (.fault ⟨[.readEvents path], .unreadableFile⟩)
  | some text =>
    match Event.listOfText? text with
    | none => return .failed s (.fault ⟨[.parseEvents path], .malformed⟩)
    | some events =>
      let timed ← events.mapM fun event => return (← clock, event)
      return .ofReplay events (Service.replay (n := Id) (.builtIn settings) settings timed s)

/-- Carries out a command that needs nothing more from outside than the time. For `replay`, `text` is
the text of the file. -/
def execute (text : Option String) (command : Command) (s : Service.State) : n Done :=
  let db := s.database
  match command with
  | .init => return { state := s }
  | .addUser handle admin =>
    return .ofChange s (fun id => [toString id.toNat]) (db.createUser handle admin)
  | .addProject name visibility privateRepository =>
    return .ofChange s (fun id => [toString id.toNat])
      (db.createProject name visibility privateRepository)
  | .users => return { state := s, lines := db.handles }
  | .addMember project handle level =>
    withUser s handle fun user => return addMember s project user level
  | .members project => return .ofAnswer s (·.map memberLine) (db.membersOf project)
  | .list handle state action json =>
    withUser s handle fun user =>
      let lines (todos : List Todo) : List String :=
        if json then [(Json.list (todos.map Todo.toJson)).pretty] else todos.map todoLine
      return .ofAnswer s lines (db.todosOfUser user { state, action })
  | .counts handle => withUser s handle fun user => return showCounts s user
  | .done handle ids =>
    withUser s handle fun user => handleEvent settings clock (.resolveTodos ids user .apiDone)
      (fun outcome => [toString outcome.resolved.length ++ " to-do(s) marked done"]) s
  | .restore handle ids =>
    withUser s handle fun user => handleEvent settings clock (.restoreTodos ids user)
      (fun outcome => [toString outcome.restored.length ++ " to-do(s) restored"]) s
  | .markAllDone handle =>
    withUser s handle fun user => handleEvent settings clock (.markAllDone user)
      (fun outcome => [toString outcome.resolved.length ++ " to-do(s) marked done"]) s
  | .replay path => replay settings clock path text s
  | .metrics => return { state := s, lines := s.metrics.lines }

end Commands

/-! ### Calls -/

variable {n : Type → Type} [Monad n] (host : Host n)

/-- The configuration of a call. -/
def configure (call : Invocation) : ExceptT Failure n Config := do
  let file ← match call.config with
    | none => pure {}
    | some path =>
      let text ← host.readText? path
      (ExceptT.mk (pure (Config.FileSettings.load path text))).adapt .fault
  (Config.resolve host.isDirectory call.line file).adapt .config

/-- What is found at a location. A file that may not be made must exist, and one that may not be
changed cannot take new tables. -/
def find (isNew : Bool) : Location → n Stored
  | .transient => pure (.holds .empty)
  | .file path access => do
    match ← host.loadDatabase path, access with
    | .missing, .reading | .missing, .changing => pure .closed
    | .holds snapshot, .reading => pure (if isNew then .foreign else .holds snapshot)
    | stored, _ => pure stored

/-- Opens the database of a configuration. It is new when its path, taken as it is, leads nowhere,
whatever is found at its location. -/
def openDatabase (path : String) (location : Location) : ExceptT Failure n Snapshot := do
  let isNew := !(← host.exists? path)
  let stored ← ExceptT.lift (find host isNew location)
  (ExceptT.mk (pure (if isNew then stored.create else stored.load))).adapt .fault

/-- Stores a database, unless it is not kept. -/
def keep (location : Location) (snapshot : Snapshot) : n Unit :=
  match location with
  | .transient => pure ()
  | .file path _ => host.saveDatabase path snapshot

/-- Opens the database at a path, and stores it as it was opened. -/
def prepare (path : String) : ExceptT Failure n (Location × Snapshot) := do
  match Location.ofPath? path with
  | none => throw (.fault ⟨[.openDatabase], .refused⟩)
  | some location =>
    let snapshot ← openDatabase host path location
    ExceptT.lift (keep host location snapshot)
    return (location, snapshot)

/-- Carries out a call. -/
def perform (call : Invocation) : ExceptT Failure n Done := do
  let config ← configure host call
  let (location, snapshot) ← prepare host config.databasePath
  let text ← match call.command with
    | .replay events => host.readText? events
    | _ => pure none
  let done ← ExceptT.lift
    (execute config.service host.now text call.command { database := snapshot.content })
  ExceptT.lift (keep host location { snapshot with content := done.state.database })
  return done

/-- The name and the version of the program. -/
def versionLine : String := "todo-engine 0.3.0"

/-- Runs the program. -/
def run (arguments : List String) : n Report := do
  match Invocation.ofArguments host.directory arguments with
  | .error .usage => return { code := 2 }
  | .error .help => return {}
  | .error .version => return { lines := [versionLine] }
  | .ok call =>
    match ← (perform host call).run with
    | .error failure => return { failure := some failure, code := 1 }
    | .ok done =>
      return { lines := done.lines, failure := done.failure, code := if done.failure.isSome then 1 else 0 }

end TodoLedger.Program
