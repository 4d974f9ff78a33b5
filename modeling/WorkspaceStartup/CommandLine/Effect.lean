import WorkspaceStartup.CommandLine.Basic
import WorkspaceStartup.Endpoint
import WorkspaceStartup.Launch

/-!
# What an invocation changes

Options of the command line win over the settings that were loaded, and they
choose how the agent is found and what is pending when a workspace is opened.
-/

namespace WorkspaceStartup

namespace Invocation

/-- The settings with the options that every command has. -/
def commonSettings (invocation : Invocation) (settings : Settings) : Settings :=
  settings
    |>.override invocation.server (fun settings url =>
        { settings with serverUrl := url })
    |>.override invocation.bus (fun settings url =>
        { settings with busUrl := some url })
    |>.override (if invocation.jsonLogs then some true else none)
        (fun settings json =>
          { settings with logging := { settings.logging with json := json } })

end Invocation

namespace StartOptions

/-- The settings with the options of a start. -/
def startSettings (options : StartOptions) (settings : Settings) : Settings :=
  settings
    |>.override options.budget (fun settings budget =>
        { settings with reconnectBudget := budget })
    |>.override options.retryDelayMs (fun settings delay =>
        { settings with retryDelayMs := delay })

def strategy (options : StartOptions) : EndpointStrategy :=
  match options.fixedPort with
  | some port => .fixedPort port
  | none => .agentServer

/-- What is pending for the opening, at the address of a dashboard. -/
def launch (options : StartOptions) (origin : Url) : Launch :=
  (Launch.new origin).prepared options.action options.parameters

end StartOptions

namespace UsageDefect

/-- What is said of arguments that make up no invocation. -/
def text : UsageDefect → String
  | nothingGiven | helpRequested =>
      "Start a remote workspace and wait for its agent\n\n" ++
      "Usage: wsboot [OPTIONS] <COMMAND>\n\n" ++
      "Commands:\n  start  Start a workspace and wait until its agent answers\n" ++
      "  list   List workspaces and their status"
  | versionRequested => "wsboot 0.1.0"
  | missingCommand => "error: a subcommand is required but was not provided"
  | unknownCommand => "error: unrecognized subcommand"
  | unknownArgument => "error: unexpected argument found"
  | missingValue => "error: a value is required but none was supplied"
  | badValue => "error: invalid value"
  | repeated => "error: the argument cannot be used multiple times"
  | unwantedValue => "error: unexpected value for a flag"
  | missingArgument => "error: a required argument was not provided"

/-- What was asked for can be told, so nothing has gone wrong. -/
def isRequest : UsageDefect → Bool
  | helpRequested | versionRequested => true
  | _ => false

end UsageDefect

end WorkspaceStartup
