import TodoLedger.Config.Path
import TodoLedger.Error
import TodoLedger.Service.Plan
import TodoLedger.Toml.Parser

/-!
# Configuration

The program takes its settings from the command line and from a file, which wins where it says
something. `FileSettings.ofText?` reads the text of a file, and `resolve` puts both together and
checks where the database shall be.
-/

namespace TodoLedger

namespace Config

/-- How much is logged. -/
inductive LoggingLevel where
  | error
  | warn
  | info
  | debug
  | trace
deriving DecidableEq, Repr

namespace LoggingLevel

/-- All levels, fewest messages first. -/
def all : List LoggingLevel := [.error, .warn, .info, .debug, .trace]

/-- The name under which a level is written. -/
def name : LoggingLevel → String
  | .error => "error"
  | .warn => "warn"
  | .info => "info"
  | .debug => "debug"
  | .trace => "trace"

/-- The level of that exact name. -/
def ofExactName? (name : String) : Option LoggingLevel := all.find? (·.name = name)

/-- The level of that name, in small letters or capitals. -/
def ofName? (name : String) : Option LoggingLevel := ofExactName? (lowerCase name)

end LoggingLevel

/-! ### The file -/

/-- What a file says about to-dos. -/
structure TodoSettings where
  assignAuthorOnCreate : Option Bool := none
  ignoreCodeBlocks : Option Bool := none
deriving DecidableEq, Repr

/-- What a file says. -/
structure FileSettings where
  databasePath : Option String := none
  loggingLevel : Option String := none
  todos : Option TodoSettings := none
deriving DecidableEq, Repr

/-- Reads a text. -/
def text? : Toml → Option String
  | .string value => some value
  | _ => none

/-- Reads a truth value. -/
def bool? : Toml → Option Bool
  | .bool value => some value
  | _ => none

/-- Reads a field that may be missing. -/
def field? {α : Type} (fields : Toml.Fields) (name : String) (decode : Toml → Option α) :
    Option (Option α) :=
  match fields.lookup name with
  | some value => (decode value).map some
  | none => some none

/-- Reads the item at a place where the list may end before. -/
def item? {α : Type} (items : List Toml) (place : Nat) (decode : Toml → Option α) :
    Option (Option α) :=
  match items[place]? with
  | some value => (decode value).map some
  | none => some none

/-- Reads the settings for to-dos: a table, or the values in their order; a date says nothing about
them. -/
def TodoSettings.ofToml? : Toml → Option TodoSettings
  | .table _ fields => do
    return ⟨← field? fields "assign_author_on_create" bool?, ← field? fields "ignore_code_blocks" bool?⟩
  | .list items => do return ⟨← item? items 0 bool?, ← item? items 1 bool?⟩
  | .moment => some {}
  | _ => none

/-- Reads the text of a file. Names that mean nothing are ignored. -/
def FileSettings.ofText? (text : String) : Option FileSettings := do
  let fields ← Toml.parse text
  return {
    databasePath := ← field? fields "db_path" text?
    loggingLevel := ← field? fields "logging_level" text?
    todos := ← field? fields "todos" TodoSettings.ofToml? }

/-- What the file at `path` says, with its text if it can be read. -/
def FileSettings.load (path : String) (text : Option String) : Except Fault FileSettings :=
  match text with
  | none => .error ⟨[.readConfig path], .unreadableFile⟩
  | some text =>
    match ofText? text with
    | some settings => .ok settings
    | none => .error ⟨[.parseConfig path], .malformed⟩

/-! ### Both sources -/

/-- What the command line says. -/
structure CommandLine where
  databasePath : Option String := none
  loggingLevel : LoggingLevel := .info
deriving DecidableEq, Repr

end Config

/-- The settings of the program. -/
structure Config where
  databasePath : String
  loggingLevel : Config.LoggingLevel
  service : Service.Settings
deriving DecidableEq, Repr

namespace Config

/-- Why settings are refused. -/
inductive Flaw where
  | noDatabase
  | isDirectory (path : String)
  | noDirectory (path : String)
  | unknownLevel (name : String)
deriving DecidableEq, Repr

/-- The flaw in words. -/
def Flaw.message : Flaw → String
  | .noDatabase => "db_path must be specified via --db-path or in config file"
  | .isDirectory path => "db_path is a directory: " ++ Text.quoted path
  | .noDirectory path => "Database directory does not exist: " ++ Text.quoted path
  | .unknownLevel name => "Unknown logging level '" ++ name ++ "'"

variable {n : Type → Type} [Monad n] (isDirectory : String → n Bool)

/-- Fails if the database cannot be at a path. -/
def checkPlace (path : String) : ExceptT Flaw n Unit := do
  if ← isDirectory path then throw (.isDirectory path)
  match Path.parent? path with
  | none | some "" => pure ()
  | some parent => unless ← isDirectory parent do throw (.noDirectory parent)

/-- The logging level: what the file says, if anything. -/
def levelOf (line : CommandLine) (file : FileSettings) : Except Flaw LoggingLevel :=
  match file.loggingLevel with
  | none => .ok line.loggingLevel
  | some name =>
    match LoggingLevel.ofName? name with
    | some level => .ok level
    | none => .error (.unknownLevel name)

/-- The settings of the service: what the file says, over what is usual. -/
def serviceSettings (todos : TodoSettings) : Service.Settings :=
  let usual : Service.Settings := {}
  ⟨todos.assignAuthorOnCreate.getD usual.assignAuthorOnCreate,
    todos.ignoreCodeBlocks.getD usual.ignoreCodeBlocks⟩

/-- Puts both sources together. -/
def resolve (line : CommandLine) (file : FileSettings) : ExceptT Flaw n Config := do
  match file.databasePath <|> line.databasePath with
  | none => throw .noDatabase
  | some path =>
    checkPlace isDirectory path
    let level ← ExceptT.mk (pure (levelOf line file))
    return ⟨path, level, serviceSettings (file.todos.getD {})⟩

end Config

end TodoLedger
