import WorkspaceStartup.Bus.Frame
import WorkspaceStartup.CommandLine.Effect
import WorkspaceStartup.CommandLine.Parser
import WorkspaceStartup.Service.Watch
import WorkspaceStartup.Session
import WorkspaceStartup.Settings.Load

/-!
# The program

The program reads its arguments, its settings file and its environment, and
holds the session that they ask for.  It opens no connection of its own but
leaves that to a carrier beside it: what the session asks of the network goes
to the standard error stream, and what the network does in return comes from
the standard input, both as JSON objects, one a line.  What is meant for the
user goes to the standard output.
-/

namespace WorkspaceStartup.Program

def ask (kind : String) (members : List (String × Json)) : IO Unit :=
  IO.eprintln (Json.object (("ask", .text kind) :: members)).print

/-- The next thing that the carrier tells, if it tells anything more. -/
def hear : IO (Option Json) := do
  let line ← (← IO.getStdin).getLine
  return if line.isEmpty then none else some ((Json.parse? line).getD .null)

/-- The answer that the carrier tells of. -/
def answerOf (told : Json) : Reply :=
  match told.member? "status", told.textMember? "body" with
  | some (.number (.integer status)), some body =>
      .ok ⟨status.toNat, body.toUTF8.toList⟩
  | _, _ => .error (.transport ((told.textMember? "failure").getD "no answer"))

/-- How an opening has ended that the carrier tells of. -/
def openingOf (told : Json) : Except LinkFailure Unit :=
  match told.textMember? "refused", told.textMember? "protocol" with
  | some detail, _ => .error (.refused detail)
  | none, some detail => .error (.protocol detail)
  | none, none => .ok ()

/-- The message of the bus that the carrier tells of, if it is one. -/
def publicationOf? (told : Json) : Option Publication :=
  (told.textMember? "frame").bind Publication.read?

def send (request : Request) : IO Unit :=
  ask "request" [("method", .text request.method.word),
    ("url", .text request.url.text)]

/-- Sends a request and waits for the answer. -/
def transport : Transport IO := fun request => do
  send request
  match ← hear with
  | some told => return answerOf told
  | none => return .error .cancelled

/-- Makes a move of a controller and shows the progress that it brings. -/
def move (controller : Controller) (move : Move) : IO Controller := do
  let next := (controller.step? move).getD controller
  let count := next.journal.length - controller.journal.length
  let events := Entry.events (next.journal.take count).reverse
  (events.filterMap Event.progressLine?).forM fun line => IO.println line
  return next

/-- Waits for something to happen, and passes messages of the bus on meanwhile. -/
partial def await (controller : Controller) : IO (Controller × Option Json) := do
  match ← hear with
  | none => return (controller, none)
  | some told =>
      match publicationOf? told with
      | some publication =>
          await (← move controller (.publish publication.channel publication.body))
      | none => return (controller, some told)

def call (service : Service) (controller : Controller) (call : ServiceCall)
    (decode : Json.Decoder α) : IO (Controller × Except ControlFailure α) := do
  match service.request call with
  | .error failure => return (controller, .error failure)
  | .ok request =>
      send request
      let (controller, told?) ← await controller
      match told? with
      | some told => return (controller, (answerOf told).bind (Answer.read decode))
      | none => return (controller, .error .cancelled)

/-- Carries the only start of a controller to its end. -/
partial def attend (service : Service) (pollMs : Nat) (controller : Controller) :
    IO Controller := do
  match controller.pending? 0 with
  | none => return controller
  | some (attempt, stage) =>
      let id := attempt.workspaceId
      let next ←
        match stage with
        | .starting => do
            let environment := (controller.starts[0]?.map (·.environment)).getD ""
            let (controller, answer) ←
              call service controller (.start id environment) StartResult.decode
            let next ← move controller (.started 0 answer)
            (next.activeChannels).forM fun channel =>
              ask "channel" [("channel", .text channel)]
            pure next
        | .watching => do
            let (controller, answer) ←
              call service controller (.details id) Workspace.decode
            match (StatusWatch.decide? .running answer).or
                (StatusWatch.decide? .error answer) with
            | some change => move controller (.watched 0 change)
            | none => do
                IO.sleep (UInt32.ofNat pollMs)
                move controller (.tick pollMs)
        | .fetching => do
            let (controller, answer) ←
              call service controller (.details id) Workspace.decode
            move controller (.fetched 0 answer)
        | .opening run => do
            ask "socket" [("url", .text run.url)]
            let (controller, told?) ← await controller
            let outcome := (told?.map openingOf).getD (.error (.refused "no answer"))
            move controller (.linked 0 outcome)
        | .waiting _ wakeTime => do
            let rest := wakeTime - controller.clock
            IO.sleep (UInt32.ofNat rest)
            move (← move controller (.tick rest)) (.woken 0)
      attend service pollMs next

/-- The surroundings that the carrier is for a session. -/
def surroundings (service : Service) (settings : Settings) : Surroundings IO where
  transport := transport
  joinBus url := do
    ask "bus" [("url", .text url)]
    return ((← hear).map openingOf).getD (.error (.refused "no answer"))
  attend := attend service settings.statusPollMs
  tell line := IO.println line
  drawNumber := IO.rand 1 1000000

/-- What lies at the place of the settings file; what is there but no file is a directory. -/
def settingsFile (path : String) : IO SettingsFile := do
  try
    return .bytes (← IO.FS.readBinFile path).toList
  catch
    | .noFileOrDirectory .. => return .absent
    | _ => return .directory

/-- The values of the variables that override settings. -/
def environment : IO (String → Option String) := do
  let values ← Settings.variableNames.mapM fun name => do
    return (name, ← IO.getEnv name)
  return fun name => (values.find? (·.1 == name)).bind (·.2)

/-- Complains, and gives the code with which the program ends. -/
def complain (text : String) (code : UInt32) : IO UInt32 := do
  IO.eprintln text
  return code

/-- Holds the session that an invocation asks for. -/
def hold (invocation : Invocation) (loaded : Settings) : IO UInt32 := do
  let settings := invocation.commonSettings loaded
  let service := Service.ofAddress settings.serverUrl
  let finish (result : Except SessionFailure Unit) : IO UInt32 :=
    match result with
    | .ok () => return 0
    | .error failure => complain ("Error: " ++ failure.text) 1
  match invocation.command with
  | .list => finish (← Session.list (surroundings service settings) service)
  | .start options =>
      let settings := options.startSettings settings
      match Url.parse settings.serverUrl with
      | .error _ => complain "Error: invalid server URL" 1
      | .ok origin =>
          finish (← Session.start (surroundings service settings) service settings
            options.strategy (options.launch origin) ⟨options.workspaceId⟩)

end WorkspaceStartup.Program

open WorkspaceStartup in
def main (arguments : List String) : IO UInt32 := do
  match CommandLine.read arguments with
  | .error defect =>
      if defect.isRequest then
        IO.println defect.text
        return 0
      Program.complain defect.text 2
  | .ok invocation =>
      let file ← Program.settingsFile (Settings.path (← IO.getEnv "HOME"))
      match Settings.load file (← Program.environment) with
      | .error failure => Program.complain ("Error: loading settings: " ++ failure.text) 1
      | .ok settings => Program.hold invocation settings
