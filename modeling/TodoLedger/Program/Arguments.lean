import TodoLedger.Config.Resolve

/-!
# The command line

`Invocation.ofArguments` reads the arguments of the program: options for all commands, then the
command with its own options and operands. An option takes its value after an equals sign or as the
next argument, which must not look like an option itself; it is given once. After two dashes
everything is an operand. The first argument that is wrong, or asks for help, decides.
-/

namespace TodoLedger.Program

/-- What the program is asked to do. -/
inductive Command where
  | init
  | addUser (handle : String) (admin : Bool)
  | addProject (name : String) (visibility : Visibility) (privateRepository : Bool)
  | users
  | addMember (project : ProjectId) (handle : String) (level : AccessLevel)
  | members (project : ProjectId)
  | list (handle : String) (state : Option TodoState) (action : Option Action) (json : Bool)
  | counts (handle : String)
  | done (handle : String) (ids : List TodoId)
  | restore (handle : String) (ids : List TodoId)
  | markAllDone (handle : String)
  | replay (events : String)
  | metrics
deriving DecidableEq, Repr

/-- A call of the program. -/
structure Invocation where
  /-- The file of settings. -/
  config : Option String
  line : Config.CommandLine
  command : Command
deriving DecidableEq, Repr

/-- Why nothing is done. -/
inductive Refusal where
  /-- The arguments make no call. -/
  | usage
  /-- Help is asked for. -/
  | help
  /-- The version is asked for. -/
  | version
deriving DecidableEq, Repr

/-! ### Words -/

/-- True of the arguments that look like options. -/
def looksLikeOption (argument : String) : Bool :=
  argument.toList.head? = some '-' && argument ≠ "-"

/-- An option, with its value if there is an equals sign. -/
def splitOption (argument : String) : String × Option String :=
  let name := argument.toList.takeWhile (· ≠ '=')
  match argument.toList.drop name.length with
  | _ :: value => (String.ofList name, some (String.ofList value))
  | [] => (argument, none)

/-! ### Values -/

/-- Reads a non-negative 64-bit number in decimal digits, with or without a plus sign. -/
def number? (text : String) : Option UInt64 :=
  let digits := match text.toList with
    | '+' :: digits => digits
    | digits => digits
  if digits.isEmpty || !digits.all Char.isDigit then none
  else
    let n := Json.digitsValue digits
    if n < UInt64.size then some (UInt64.ofNat n) else none

/-- The value, or a refusal. -/
def required {α : Type} : Option α → Except Refusal α
  | some value => .ok value
  | none => .error .usage

/-! ### Sorting -/

/-- True of the values that can be read. -/
def isRead {α : Type} (decode : String → Option α) (text : String) : Bool := (decode text).isSome

/-- What the arguments of a command may be. -/
structure Grammar where
  /-- Options with a value, each with the test of its values. -/
  valued : List (String × (String → Bool)) := []
  /-- Options without a value. -/
  flags : List String := []
  /-- The tests of the operands. -/
  operands : List (String → Bool) := []
  /-- The test of all operands after these, if there may be more. -/
  further : Option (String → Bool) := none

/-- The arguments of a command, sorted. -/
structure Words where
  values : List (String × String) := []
  flags : List String := []
  operands : List String := []

namespace Words

/-- Adds an option with its value, unless it is there already. -/
def addValue (words : Words) (name value : String) (isGood : String → Bool) :
    Except Refusal Words :=
  if (words.values.lookup name).isSome || !isGood value then .error .usage
  else .ok { words with values := words.values ++ [(name, value)] }

/-- Adds an option without a value, unless it is there already. -/
def addFlag (words : Words) (name : String) : Except Refusal Words :=
  if words.flags.contains name then .error .usage
  else .ok { words with flags := words.flags ++ [name] }

/-- Adds an operand, if there may be one more. -/
def addOperand (grammar : Grammar) (words : Words) (operand : String) : Except Refusal Words :=
  match grammar.operands[words.operands.length]? <|> grammar.further with
  | some isGood =>
    if isGood operand then .ok { words with operands := words.operands ++ [operand] }
    else .error .usage
  | none => .error .usage

/-- Sorts the arguments of a command. The first that is wrong, or asks for help, decides. -/
def read (grammar : Grammar) : List String → Words → Except Refusal Words
  | [], words => .ok words
  | argument :: rest, words =>
    if argument = "--" then rest.foldlM (addOperand grammar) words
    else if !looksLikeOption argument then addOperand grammar words argument >>= read grammar rest
    else
      let (name, value) := splitOption argument
      if argument = "--help" || "-h".toList.isPrefixOf argument.toList then .error .help
      else
        match grammar.valued.lookup name, value, rest with
        | some isGood, some value, rest => words.addValue name value isGood >>= read grammar rest
        | some isGood, none, value :: rest =>
          if looksLikeOption value then .error .usage
          else words.addValue name value isGood >>= read grammar rest
        | some _, none, [] => .error .usage
        | none, value, rest =>
          if grammar.flags.contains name && value.isNone then
            words.addFlag name >>= read grammar rest
          else .error .usage

end Words

/-- Reads the value of an option that may be missing. -/
def valueOf? {α : Type} (words : Words) (name : String) (decode : String → Option α) :
    Except Refusal (Option α) :=
  match words.values.lookup name with
  | some text => (required (decode text)).map some
  | none => .ok none

/-! ### Commands -/

/-- Any text will do. -/
def anyText (_ : String) : Bool := true

/-- What the arguments of the command of that name may be. -/
def grammarOf? : String → Option Grammar
  | "init" | "users" | "metrics" => some {}
  | "counts" | "mark-all-done" | "replay" => some { operands := [anyText] }
  | "members" => some { operands := [isRead number?] }
  | "done" | "restore" => some { operands := [anyText], further := some (isRead number?) }
  | "add-user" => some { flags := ["--admin"], operands := [anyText] }
  | "add-project" => some {
      valued := [("--visibility", isRead Visibility.ofName?)]
      flags := ["--private-repository"]
      operands := [anyText] }
  | "add-member" => some {
      valued := [("--access-level", isRead AccessLevel.ofName?)]
      operands := [isRead number?, anyText] }
  | "list" => some {
      valued := [("--state", isRead TodoState.ofName?), ("--action", isRead Action.ofName?)]
      flags := ["--json"]
      operands := [anyText] }
  | _ => none

/-- Reads a command from its sorted arguments. Relative paths start in `directory`. -/
def commandOf (directory name : String) (words : Words) : Except Refusal Command := do
  match name, words.operands with
  | "init", [] => return .init
  | "add-user", [handle] => return .addUser handle (words.flags.contains "--admin")
  | "add-project", [name] =>
    let visibility ← valueOf? words "--visibility" Visibility.ofName?
    return .addProject name (visibility.getD .membersOnly)
      (words.flags.contains "--private-repository")
  | "users", [] => return .users
  | "add-member", [project, handle] =>
    let level ← valueOf? words "--access-level" AccessLevel.ofName?
    return .addMember (← required (number? project)) handle (level.getD .developer)
  | "members", [project] => return .members (← required (number? project))
  | "list", [handle] =>
    return .list handle (← valueOf? words "--state" TodoState.ofName?)
      (← valueOf? words "--action" Action.ofName?) (words.flags.contains "--json")
  | "counts", [handle] => return .counts handle
  | "done", handle :: ids => return .done handle (← ids.mapM fun id => required (number? id))
  | "restore", handle :: ids => return .restore handle (← ids.mapM fun id => required (number? id))
  | "mark-all-done", [handle] => return .markAllDone handle
  | "replay", [events] => return .replay (Path.join directory events)
  | "metrics", [] => return .metrics
  | _, _ => throw .usage

/-- Help on the program, or on a command or on help itself. -/
def helpOn : List String → Refusal
  | [] => .help
  | [name] => if name = "help" || (grammarOf? name).isSome then .help else .usage
  | _ => .usage

/-- Reads a command with its arguments. -/
def commandOfArguments (directory name : String) (arguments : List String) :
    Except Refusal Command := do
  if name = "help" then throw (helpOn arguments)
  let grammar ← required (grammarOf? name)
  let words ← Words.read grammar arguments {}
  commandOf directory name words

/-! ### Calls -/

/-- Options for all commands. -/
structure Globals where
  config : Option String := none
  databasePath : Option String := none
  level : Option Config.LoggingLevel := none

namespace Globals

/-- Sets an option for all commands, unless it is set already. -/
def set (directory name value : String) (globals : Globals) : Except Refusal Globals := do
  match name, globals with
  | "--config", { config := none, .. } =>
    return { globals with config := some (Path.join directory value) }
  | "--db-path", { databasePath := none, .. } =>
    return { globals with databasePath := some (Path.join directory value) }
  | "--logging-level", { level := none, .. } =>
    return { globals with level := some (← required (Config.LoggingLevel.ofExactName? value)) }
  | _, _ => throw .usage

/-- The names of the options for all commands. -/
def names : List String := ["--config", "--db-path", "--logging-level"]

end Globals

namespace Invocation

/-- What a refused option comes to when these arguments follow it. The arguments of a command are
looked at before the value of the option that stands in front of it. -/
def afterRefusal (directory : String) (refusal : Refusal) : List String → Refusal
  | [] => refusal
  | name :: rest =>
    if looksLikeOption name then refusal
    else
      match commandOfArguments directory name rest with
      | .error first => first
      | .ok _ => refusal

/-- Reads the options for all commands, and then the command. -/
def read (directory : String) (globals : Globals) : List String → Except Refusal Invocation
  | [] => .error .usage
  | argument :: rest =>
    if argument = "--version" || "-V".toList.isPrefixOf argument.toList then .error .version
    else if argument = "--help" || "-h".toList.isPrefixOf argument.toList then .error .help
    else if looksLikeOption argument then
      let (name, value) := splitOption argument
      if !Globals.names.contains name then .error .usage
      else
        match value, rest with
        | some value, rest => globals.set directory name value >>= (read directory · rest)
        | none, value :: rest =>
          if looksLikeOption value then .error .usage
          else
            match globals.set directory name value with
            | .ok globals => read directory globals rest
            | .error refusal => .error (afterRefusal directory refusal rest)
        | none, [] => .error .usage
    else
      (commandOfArguments directory argument rest).map fun command =>
        { config := globals.config
          line := ⟨globals.databasePath, globals.level.getD .info⟩
          command }

/-- Reads the arguments of the program, which runs in `directory`. -/
def ofArguments (directory : String) (arguments : List String) : Except Refusal Invocation :=
  read directory {} arguments

end Invocation

end TodoLedger.Program
