import WorkspaceStartup.Json.Double
import WorkspaceStartup.Settings.Override
import WorkspaceStartup.Text.Split

/-!
# The command line

What can be asked for on the command line, the options that say it in detail,
and the ways in which arguments can be wrong.
-/

namespace WorkspaceStartup

structure StartOptions where
  workspaceId : String
  budget : Option Nat
  retryDelayMs : Option Nat
  fixedPort : Option Nat
  action : Option String
  parameters : List (String × String)
  deriving DecidableEq, Repr

inductive Command
  | list
  | start (options : StartOptions)
  deriving DecidableEq, Repr

/-- A command and the options that any command may have. -/
structure Invocation where
  server : Option String
  bus : Option String
  jsonLogs : Bool
  command : Command
  deriving DecidableEq, Repr

/-- Why arguments make up no invocation. -/
inductive UsageDefect
  /-- Nothing was given, so the help is shown. -/
  | nothingGiven
  | helpRequested
  | versionRequested
  | missingCommand
  | unknownCommand
  | unknownArgument
  /-- An option stands without its value. -/
  | missingValue
  | badValue
  /-- An option that may stand once stands twice. -/
  | repeated
  /-- A flag is given a value. -/
  | unwantedValue
  | missingArgument
  deriving DecidableEq, Repr

namespace CommandLine

/-- What takes a value. -/
inductive Slot
  | server
  | bus
  | budget
  | retryDelay
  | fixedPort
  | action
  | parameter
  | workspace
  deriving DecidableEq, Repr

/-- What takes none. -/
inductive Flag
  | jsonLogs
  | help
  | version
  deriving DecidableEq, Repr

/-- What a name on the command line stands for. -/
inductive Named
  | slot (slot : Slot)
  | flag (flag : Flag)
  deriving DecidableEq, Repr

/-- Where the arguments are read: before the command, or after one. -/
inductive Level
  | top
  | list
  | start
  deriving DecidableEq, Repr

/-- What a long name stands for. -/
def longOption? (level : Level) (name : String) : Option Named :=
  match name with
  | "server" => some (.slot .server)
  | "bus" => some (.slot .bus)
  | "json-logs" => some (.flag .jsonLogs)
  | "help" => some (.flag .help)
  | "version" => if level = .top then some (.flag .version) else none
  | "budget" => if level = .start then some (.slot .budget) else none
  | "retry-delay-ms" => if level = .start then some (.slot .retryDelay) else none
  | "fixed-port" => if level = .start then some (.slot .fixedPort) else none
  | "action" => if level = .start then some (.slot .action) else none
  | "param" => if level = .start then some (.slot .parameter) else none
  | _ => none

/-- What a letter stands for. -/
def shortFlag? (level : Level) (letter : Char) : Option Flag :=
  if letter = 'h' then some .help
  else if letter = 'V' ∧ level = .top then some .version
  else none

/-- The name and the value of a parameter, which an equals sign parts. -/
def readParameter? (text : String) : Option (String × String) :=
  (Text.cutFirst? ['='] text.toList).map fun parts =>
    (String.ofList parts.1, String.ofList parts.2)

/-- What is said of a parameter without an equals sign. -/
def parameterDefectText (text : String) : String :=
  "expected name=value, got `" ++ text ++ "`"

/-- A whole number with or without a sign. -/
def readInteger? (text : String) : Option Int :=
  match text.toList with
  | '-' :: digits => (Text.readDigits? 10 digits).map fun number => -(number : Int)
  | characters => (Text.readUnsigned? characters).map fun number => (number : Int)

/-- A number from zero to a limit, as which minus zero counts too. -/
def readBounded? (text : String) (limit : Nat) : Option Nat :=
  (readInteger? text).bind fun number =>
    if 0 ≤ number ∧ number ≤ limit then some number.toNat else none

/-- The values read on one level. -/
structure Values where
  server : Option String
  bus : Option String
  jsonLogs : Bool
  budget : Option Nat
  retryDelayMs : Option Nat
  fixedPort : Option Nat
  action : Option String
  parameters : List (String × String)
  workspaceId : Option String
  deriving DecidableEq, Repr

namespace Values

def none : Values := ⟨.none, .none, false, .none, .none, .none, .none, [], .none⟩

/-- Reads a value that may be given once. -/
def once (before : Option α) (value : Option α) : Except UsageDefect (Option α) :=
  if before.isSome then .error .repeated
  else
    match value with
    | some value => .ok (some value)
    | .none => .error .badValue

/-- The values with one more. -/
def put (values : Values) (slot : Slot) (text : String) :
    Except UsageDefect Values :=
  match slot with
  | .server =>
      (once values.server (some text)).map fun value =>
        { values with server := value }
  | .bus =>
      (once values.bus (some text)).map fun value => { values with bus := value }
  | .budget =>
      (once values.budget (readBounded? text Json.halfWordLimit)).map fun value =>
        { values with budget := value }
  | .retryDelay =>
      (once values.retryDelayMs (readWord? text)).map fun value =>
        { values with retryDelayMs := value }
  | .fixedPort =>
      (once values.fixedPort (readBounded? text 65535)).map fun value =>
        { values with fixedPort := value }
  | .action =>
      (once values.action (some text)).map fun value =>
        { values with action := value }
  | .parameter =>
      match readParameter? text with
      | some parameter =>
          .ok { values with parameters := values.parameters ++ [parameter] }
      | .none => .error .badValue
  | .workspace =>
      (once values.workspaceId (some text)).map fun value =>
        { values with workspaceId := value }

def isNone (values : Values) : Bool := values == none

end Values

end CommandLine

end WorkspaceStartup
