import WorkspaceStartup.Bus.Frame
import WorkspaceStartup.Rehearsal.Server
import WorkspaceStartup.Session
import WorkspaceStartup.Socket.Opening

/-!
# A scripted site

A site that is not there: the service, its message bus and the agent of a
workspace, all at one place.  The service describes the workspace by one of
three answers, which depends on how far the start has come.  The bus publishes
the messages of a channel when the channel is subscribed, and the agent
declines a number of visitors before it agrees to a socket.
-/

namespace WorkspaceStartup

/-- A site that plays a script. -/
structure Site where
  place : Place
  /-- The answer to a request for details before the start is asked for. -/
  initial : Answer
  /-- The answer to the request to start. -/
  started : Answer
  /-- The answer to a request for details from then on. -/
  running : Answer
  /-- The answer to a request for details once the agent has been reached. -/
  final : Option Answer
  publications : List Publication
  /-- How many visitors the agent still declines. -/
  declines : Nat
  startAsked : Bool
  agentReached : Bool
  /-- The visits that are told of, the latest first. -/
  visits : List String
  /-- The lines that the session has told, the latest first. -/
  told : List String

namespace Site

/-- Where the bus is reached. -/
def busTarget : String := "/api/ws"

/-- How the agent declines. -/
def overload : String := "503 Service Unavailable"

/-- A site at which nothing has happened yet. -/
def new (place : Place) (initial started running : Answer)
    (final : Option Answer) (publications : List Publication)
    (declines : Nat) : Site where
  place := place
  initial := initial
  started := started
  running := running
  final := final
  publications := publications
  declines := declines
  startAsked := false
  agentReached := false
  visits := []
  told := []

def visit (site : Site) (kind target : String) : Site :=
  { site with visits := (kind ++ " " ++ target) :: site.visits }

/-- The answer to a request for details. -/
def details (site : Site) : Answer :=
  if !site.startAsked then site.initial
  else if site.agentReached then site.final.getD site.running
  else site.running

/-- Takes a request; only those up to the one to start are told of. -/
def exchange : Transport (StateM Site) := fun request site =>
  let visited := site.visit request.method.word request.url.target
  if !site.place.isPlaceOf request.url then (.error .unanswered, site)
  else if request.method = .post then
    (site.started.reply, { visited with startAsked := true })
  else if site.startAsked then (site.details.reply, site)
  else (site.details.reply, visited)

/-- How the site receives visitors of its sockets. -/
def reception (site : Site) (host : String) (port : Nat) : Reception :=
  if host = site.place.host ∧ port = site.place.port then .agrees else .closed

def joinBus (url : String) : StateM Site (Except LinkFailure Unit) := fun site =>
  ((SocketAddress.connect site.reception SocketAddress.defaultPatience url).map fun _ => (),
    site)

/-- Opens a socket, at the bus or else at the agent. -/
def openSocket (url : String) : StateM Site (Except LinkFailure Unit) :=
  fun site =>
    match SocketAddress.connect site.reception
        SocketAddress.defaultPatience url, SocketAddress.read? url with
    | .ok _, some address =>
        if address.path = busTarget then (.ok (), site)
        else
          let visited := site.visit "agent" address.requestTarget
          if 0 < site.declines then
            (.error (.protocol ("HTTP error: " ++ overload)),
              { visited with declines := site.declines - 1 })
          else (.ok (), { visited with agentReached := true })
    | .error failure, _ => (.error failure, site)
    | .ok _, none => (.ok (), site)

/-- Makes a move of a controller, if it is possible. -/
def move (controller : Controller) (move : Move) : Controller :=
  (controller.step? move).getD controller

/-- Delivers what the bus publishes on the channels that are subscribed. -/
def publishAll (site : Site) (controller : Controller) : Controller :=
  controller.activeChannels.foldl (fun controller channel =>
    (site.publications.filter (·.channel == channel)).foldl
      (fun controller publication =>
        move controller (.publish publication.channel publication.body))
      controller) controller

/-- What the details of a workspace decide for its two status watches. -/
def watched? (answer : Except ControlFailure Workspace) :
    Option (Except ControlFailure StatusChange) :=
  (StatusWatch.decide? .running answer).or (StatusWatch.decide? .error answer)

/-- Carries the only start of a controller from one wait to the next. -/
def carry (service : Service) (controller : Controller) (attempt : Attempt) :
    Stage → StateM Site Controller
  | .starting => do
      let environment := (controller.starts[0]?.map (·.environment)).getD ""
      let answer ← service.requestStart exchange attempt.workspaceId environment
      return (← get).publishAll (move controller (.started 0 answer))
  | .watching => do
      match watched? (← service.fetchDetails exchange attempt.workspaceId) with
      | some answer => return move controller (.watched 0 answer)
      | none => return controller
  | .fetching => do
      let answer ← service.fetchDetails exchange attempt.workspaceId
      return move controller (.fetched 0 answer)
  | .opening run => do
      return move controller (.linked 0 (← openSocket run.url))
  | .waiting _ wakeTime =>
      return move (move controller (.tick (wakeTime - controller.clock))) (.woken 0)

def attendFor (service : Service) :
    Nat → Controller → StateM Site Controller
  | 0, controller => return controller
  | fuel + 1, controller =>
      match controller.pending? 0 with
      | none => return controller
      | some (attempt, stage) => do
          attendFor service fuel (← carry service controller attempt stage)

/-- How often a start is carried on at most: three waits, and two for each try. -/
def attendance (controller : Controller) : Nat :=
  2 * controller.config.budget + 8

/-- Carries the only start of a controller to its end, and tells its progress. -/
def attend (service : Service) (controller : Controller) :
    StateM Site Controller := do
  let ended ← attendFor service (attendance controller) controller
  let lines := (Entry.events ended.journal).filterMap Event.progressLine?
  modify fun site => { site with told := lines ++ site.told }
  return ended

/-- The surroundings that the site is for a session. -/
def surroundings (service : Service) (number : Nat) :
    Surroundings (StateM Site) where
  transport := exchange
  joinBus := joinBus
  attend := attend service
  tell line := modify fun site => { site with told := line :: site.told }
  drawNumber := return number

end Site

end WorkspaceStartup
