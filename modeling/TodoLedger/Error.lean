import TodoLedger.Text.Quoted
import TodoLedger.Todo.Basic

/-!
# Errors

An `Error` tells why a request to the ledger failed. Three kinds of them carry a `Fault` of a
collaborator: what it was doing, step by step from the outermost, and the cause at the bottom.
`Error.message` gives the wording.
-/

namespace TodoLedger

/-- A stored value that no reader understands. -/
inductive Unreadable where
  | action (code : Int64)
  | state (name : String)
  | resolution (name : String)
  | targetKind (name : String)
  | accessLevel (code : Int64)
  | visibility (name : String)
deriving DecidableEq, Repr

/-- The cause at the bottom of a fault. -/
inductive Cause where
  /-- A row refers to a row that does not exist. -/
  | foreignKey
  /-- A value that may occur once is there already. -/
  | unique
  /-- A statement takes more values than the database allows. -/
  | tooManyVariables
  /-- The tables refuse for another reason. -/
  | refused
  /-- A file cannot be read. -/
  | unreadableFile
  /-- The text of a file is not in its format. -/
  | malformed
  /-- A stored value cannot be read. -/
  | unreadable (value : Unreadable)
  /-- What a collaborator says itself. -/
  | stated (text : String)
deriving DecidableEq, Repr

/-- What a collaborator was doing when it failed. -/
inductive Step where
  | createUser (handle : String)
  | loadUser (id : UserId)
  | createProject (name : String)
  | loadProject (id : ProjectId)
  | addMember (user : UserId) (project : ProjectId)
  | insertTodo (user : UserId)
  | loadTodo (id : TodoId)
  | loadTodosOfUser (id : UserId)
  | loadTodosOfTarget (target : TargetRef)
  | resolveHandles
  | destroy (target : TargetRef)
  | createTable (name : String)
  | createIndex (name : String)
  | readVersion
  | openDatabase
  | validateSchema (version : Nat)
  | validateDatabase (version : Nat)
  | migrate (version : Nat)
  | readConfig (path : String)
  | parseConfig (path : String)
  | readEvents (path : String)
  | parseEvents (path : String)
  /-- What a collaborator says itself. -/
  | stated (text : String)
deriving DecidableEq, Repr

/-- The failure of a collaborator: what it was doing, outermost first, and why it failed. -/
structure Fault where
  steps : List Step
  cause : Cause
deriving DecidableEq, Repr

/-- Why a request failed. -/
inductive Error where
  | unknownAction (code : Int64)
  | unknownState (name : String)
  | invalidTarget (flaw : TargetFlaw)
  | todoNotFound (id : TodoId)
  /-- The to-do belongs to another user than the one who asks. -/
  | notOwned (todo : TodoId) (user : UserId)
  /-- It could not be found out who sees the target. -/
  | visibility (fault : Fault)
  /-- It could not be found out to whom a text refers. -/
  | references (fault : Fault)
  /-- The database failed. -/
  | store (fault : Fault)
deriving DecidableEq, Repr

/-! ### Wording -/

/-- The wording for an action's code that no action has. -/
def unknownActionText (code : Int64) : String := "Unknown to-do action " ++ toString code.toInt

/-- The wording for a stored name that no state has. -/
def unknownStateText (name : String) : String := "Unknown to-do state '" ++ name ++ "'"

/-- The wording for a target that a to-do cannot point at. -/
def invalidTargetText (flaw : TargetFlaw) : String := "Invalid target: " ++ flaw.message

namespace Unreadable

/-- A stored resolution is called a state like the state itself. -/
def message : Unreadable → String
  | .action code => unknownActionText code
  | .state name | .resolution name => unknownStateText name
  | .targetKind name => invalidTargetText (.unknownKind name)
  | .accessLevel code => "Unknown access level " ++ toString code.toInt
  | .visibility name => "Unknown project visibility '" ++ name ++ "'"

end Unreadable

namespace Step

/-- The wording of a step. -/
def message : Step → String
  | .createUser handle => "Failed to create user " ++ handle
  | .loadUser id => "Failed to load user " ++ toString id.toNat
  | .createProject name => "Failed to create project " ++ name
  | .loadProject id => "Failed to load project " ++ toString id.toNat
  | .addMember user project =>
    "Failed to add user " ++ toString user.toNat ++ " to project " ++ toString project.toNat
  | .insertTodo user => "Failed to insert to-do for user " ++ toString user.toNat
  | .loadTodo id => "Failed to load to-do " ++ toString id.toNat
  | .loadTodosOfUser id => "Failed to load to-dos of user " ++ toString id.toNat
  | .loadTodosOfTarget target => "Failed to load to-dos of " ++ target.display
  | .resolveHandles => "Failed to resolve mentioned handles"
  | .destroy target => "Failed to destroy " ++ target.display
  | .createTable name => "Failed to create table " ++ name
  | .createIndex name => "Failed to create index " ++ name
  | .readVersion => "Failed to read database version"
  | .openDatabase => "Failed to open to-do database"
  | .validateSchema version => "Schema version " ++ toString version ++ " validation failed"
  | .validateDatabase version =>
    "To-do database schema validation failed for version " ++ toString version
  | .migrate version => "Failed to run migration to version " ++ toString version
  | .readConfig path => "Failed to read config file: " ++ Text.quoted path
  | .parseConfig path => "Failed to parse config file: " ++ Text.quoted path
  | .readEvents path => "Failed to read events file: " ++ Text.quoted path
  | .parseEvents path => "Failed to parse events file: " ++ Text.quoted path
  | .stated text => text

end Step

namespace Cause

/-- True of the causes that the database reports in words of its own. -/
def isFromDatabase : Cause → Bool
  | .foreignKey | .unique | .tooManyVariables | .refused | .unreadable _ => true
  | .unreadableFile | .malformed | .stated _ => false

/-- The wording of a cause. -/
def message : Cause → String
  | .foreignKey => "row refers to a missing row"
  | .unique => "value is there already"
  | .tooManyVariables => "too many SQL variables"
  | .refused => "request refused by the database"
  | .unreadableFile => "file cannot be read"
  | .malformed => "text is not in its format"
  | .unreadable value => value.message
  | .stated text => text

end Cause

namespace Fault

/-- A fault of a collaborator in a single text of its own. -/
def stated (text : String) : Fault := ⟨[], .stated text⟩

/-- The fault as seen by a collaborator that was doing `step`. -/
def within (fault : Fault) (step : Step) : Fault := ⟨step :: fault.steps, fault.cause⟩

/-- The outermost text. -/
def message (fault : Fault) : String :=
  match fault.steps with
  | step :: _ => step.message
  | [] => fault.cause.message

/-- All texts, from the outermost. -/
def trail (fault : Fault) : String :=
  ": ".intercalate (fault.steps.map Step.message ++ [fault.cause.message])

end Fault

namespace Error

/-- The wording of an error. -/
def message : Error → String
  | .unknownAction code => unknownActionText code
  | .unknownState name => unknownStateText name
  | .invalidTarget flaw => invalidTargetText flaw
  | .todoNotFound id => "To-do " ++ toString id.toNat ++ " not found"
  | .notOwned todo user =>
    "To-do " ++ toString todo.toNat ++ " does not belong to user " ++ toString user.toNat
  | .visibility fault => "Visibility check failed: " ++ fault.trail
  | .references fault => "Reference scan failed: " ++ fault.trail
  | .store fault => fault.message

end Error

end TodoLedger
