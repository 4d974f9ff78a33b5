import WorkspaceStartup.Url.Basic
import WorkspaceStartup.Workspace.Basic

/-!
# Opening the development environment

The URL under which the development environment of a started workspace is
opened.  It carries a random number, an action and parameters; action and
parameters are pending until the next URL is made, and are then used up.  A
development machine with the variable `RIDE` has its environment behind a
proxy, whose URL is made from the address of the dashboard instead.
-/

namespace WorkspaceStartup

/-- What is pending for the next opening. -/
structure Launch where
  origin : Url
  action : Option String
  /-- Names and values, a name at the place where it was first set. -/
  parameters : List (String × String)

namespace Launch

def new (origin : Url) : Launch := ⟨origin, none, []⟩

def setAction (launch : Launch) (action : String) : Launch :=
  { launch with action := some action }

/-- Sets the value of the first parameter of a name, or adds it at the end. -/
def putParameter (name value : String) :
    List (String × String) → List (String × String)
  | [] => [(name, value)]
  | parameter :: parameters =>
      if parameter.1 = name then (name, value) :: parameters
      else parameter :: putParameter name value parameters

def setParameter (launch : Launch) (name value : String) : Launch :=
  { launch with parameters := putParameter name value launch.parameters }

/-- The launch with an action, if there is one, and parameters that become pending. -/
def prepared (launch : Launch) (action : Option String)
    (parameters : List (String × String)) : Launch :=
  let launch :=
    match action with
    | some action => launch.setAction action
    | none => launch
  parameters.foldl (fun launch parameter =>
    launch.setParameter parameter.1 parameter.2) launch

/-- The launch with nothing pending. -/
def used (launch : Launch) : Launch :=
  { launch with action := none, parameters := [] }

def actionField : Option String → String
  | some action => "&action=" ++ Url.formEncode action
  | none => ""

def parameterField (parameter : String × String) : String :=
  "&" ++ Url.formEncode parameter.1 ++ "=" ++ Url.formEncode parameter.2

/-- The query that carries a number and what is pending. -/
def query (launch : Launch) (number : Nat) : String :=
  "?uid=" ++ Text.decimal number ++ actionField launch.action ++
    String.join (launch.parameters.map parameterField)

/-- The variable that asks for the proxied environment. -/
def proxyVariable : String := "RIDE"

/-- The server whose address names the port of the proxy. -/
def proxyServerName : String := "8080/tcp"

/-- The part of an address after its last colon. -/
def portPart? (address : String) : Option String :=
  (Text.cutLast? ':' address.toList).map fun parts => String.ofList parts.2

/-- The URL of the proxied environment. -/
def proxied? (launch : Launch) (workspace : Workspace) : Option String := do
  let machine ← workspace.firstMachine?
  let server ← machine.server? proxyServerName
  let address ← server.address
  let port ← portPart? address
  let host ← launch.origin.hostText?
  if launch.origin.scheme = "https" then
    return "https://" ++ host ++ "/ssl_" ++ port ++ "/p8080/ride"
  else
    return launch.origin.scheme ++ "://" ++ host ++ ":" ++ port ++ "/p8080/ride"

/-- The URL to open for a workspace, if it has a development machine. -/
def url? (launch : Launch) (workspace : Workspace) (number : Nat) :
    Option String := do
  let machine ← workspace.devMachine?
  if machine.runtime.environment.contains proxyVariable then
    launch.proxied? workspace
  else
    return workspace.linkTarget Relation.environmentUrl ++ launch.query number

/-- The URL to open, and the launch after its pending parts have been used up. -/
def resolve (launch : Launch) (workspace : Workspace) (number : Nat) :
    Option String × Launch :=
  (launch.url? workspace number, launch.used)

end Launch

end WorkspaceStartup
