import WorkspaceStartup.Text.Blank
import WorkspaceStartup.Url.Host

/-!
# URLs

A URL in parts.  The segments of its path, its user information, its query and
its fragment are kept in their percent-encoded form, so the text of a URL is a
matter of putting the marks between the parts back in.
-/

namespace WorkspaceStartup

/-- The path of a URL: segments, each after a slash, or a text that nobody interprets. -/
inductive Url.Path
  | segments (names : List String)
  | uninterpreted (text : String)
  deriving DecidableEq, Repr

structure Url where
  scheme : String
  username : String
  password : String
  host : Option Url.Host
  port : Option Nat
  path : Url.Path
  query : Option String
  fragment : Option String
  deriving DecidableEq, Repr

namespace Url

/-- The port that a scheme means when none is given. -/
def defaultPort? (scheme : String) : Option Nat :=
  if scheme = "http" ∨ scheme = "ws" then some 80
  else if scheme = "https" ∨ scheme = "wss" then some 443
  else if scheme = "ftp" then some 21
  else none

/-- Schemes whose URLs always have an authority and a path. -/
def isSpecial (scheme : String) : Bool :=
  (defaultPort? scheme).isSome || scheme == "file"

namespace Path

def text : Path → String
  | segments names => String.join (names.map fun name => "/" ++ name)
  | uninterpreted text => text

/-- The text of the path without the slashes at its end. -/
def trimmedText (path : Path) : String :=
  String.ofList (Text.dropEndWhile (· == '/') path.text.toList)

end Path

/-- The user information before the host, with the mark that ends it. -/
def userinfoText (url : Url) : String :=
  if url.username.isEmpty && url.password.isEmpty then ""
  else if url.password.isEmpty then url.username ++ "@"
  else url.username ++ ":" ++ url.password ++ "@"

def portText (url : Url) : String :=
  match url.port with
  | some port => ":" ++ Text.decimal port
  | none => ""

/-- The authority; without a host, a path must not look like one. -/
def authorityText (url : Url) : String :=
  match url.host with
  | some host => "//" ++ url.userinfoText ++ host.text ++ url.portText
  | none =>
      if url.scheme = "file" then "//"
      else
        match url.path with
        | .segments ("" :: _ :: _) => "/."
        | _ => ""

/-- A part with its leading mark, if there is such a part. -/
def markedText (mark : String) : Option String → String
  | some text => mark ++ text
  | none => ""

/-- What a request for the URL asks the server for. -/
def target (url : Url) : String :=
  url.path.text ++ markedText "?" url.query

def text (url : Url) : String :=
  url.scheme ++ ":" ++ url.authorityText ++ url.target ++
    markedText "#" url.fragment

/-- The host as text; an empty host counts as none. -/
def hostText? (url : Url) : Option String :=
  (url.host.map Host.text).filter fun text => !text.isEmpty

/-- The URL with one more field at the end of its query, encoded like a form. -/
def withField (url : Url) (name value : String) : Url :=
  let field := formEncode name ++ "=" ++ formEncode value
  let query :=
    match url.query with
    | some query => if query.isEmpty then field else query ++ "&" ++ field
    | none => field
  { url with query := some query }

end Url

end WorkspaceStartup
