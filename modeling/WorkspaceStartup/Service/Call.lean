import WorkspaceStartup.Failure
import WorkspaceStartup.Url.Parser
import WorkspaceStartup.Workspace.Basic

/-!
# Calls of the workspace service

What can be asked of the service, and the requests that ask it.  The name of a
workspace becomes part of a URL as it is, so a mark in it that means something
in a URL keeps that meaning.
-/

namespace WorkspaceStartup

inductive Method
  | get
  | post
  | put
  deriving DecidableEq, Repr

namespace Method

def word : Method → String
  | get => "GET"
  | post => "POST"
  | put => "PUT"

end Method

structure Request where
  method : Method
  url : Url
  body : String
  deriving DecidableEq, Repr

namespace Request

/-- How the sender of a request calls itself. -/
def sender : String := "wsboot/0.1.0"

end Request

/-- Something to ask of the service. -/
inductive ServiceCall
  | start (id : WorkspaceId) (environment : String)
  | details (id : WorkspaceId)
  | list
  | activity (id : WorkspaceId)
  deriving DecidableEq, Repr

namespace ServiceCall

def method : ServiceCall → Method
  | start _ _ => .post
  | details _ | list => .get
  | activity _ => .put

/-- Where the service takes the call, below its address. -/
def path : ServiceCall → String
  | start id _ => "/workspace/" ++ id.text ++ "/runtime"
  | details id => "/workspace/" ++ id.text
  | list => "/workspace"
  | activity id => "/activity/" ++ id.text

/-- The URL of the call with what it has to say in the query. -/
def complete (call : ServiceCall) (url : Url) : Url :=
  match call with
  | start _ environment =>
      if environment.isEmpty then url
      else url.withField "environment" environment
  | details _ | list | activity _ => url

end ServiceCall

/-- A workspace service, known by its address. -/
structure Service where
  address : String
  deriving DecidableEq, Repr

namespace Service

/-- The service at an address; slashes at the end of the address mean nothing. -/
def ofAddress (address : String) : Service :=
  ⟨String.ofList (Text.dropEndWhile (· == '/') address.toList)⟩

/-- The text of the URL at which a call is taken. -/
def endpoint (service : Service) (call : ServiceCall) : String :=
  service.address ++ "/api" ++ call.path

def request (service : Service) (call : ServiceCall) :
    Except ControlFailure Request :=
  match Url.parse (service.endpoint call) with
  | .error defect => .error (.transport defect.text)
  | .ok url =>
      if url.scheme = "http" ∨ url.scheme = "https" then
        .ok ⟨call.method, call.complete url, ""⟩
      else .error (.transport "URL scheme is not allowed")

end Service

end WorkspaceStartup
