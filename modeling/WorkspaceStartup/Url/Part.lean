import WorkspaceStartup.Url.Parser

/-!
# Replacing parts of a URL

A URL can be given another scheme or another path.  A scheme is refused where
the other parts do not suit it, and the port that it means anyway is left out.
The path is read like the path in the text of a URL.
-/

namespace WorkspaceStartup.Url

/-- The URL under another scheme.  A special scheme takes the place of special
ones only, and it needs a host; a file has no authority. -/
def withScheme? (url : Url) (scheme : String) : Option Url :=
  if isSpecial scheme != isSpecial url.scheme then none
  else if scheme = "file" ∧ url.host.isSome then none
  else if isSpecial scheme ∧ url.host.isNone then none
  else
    some { url with
      scheme := scheme
      port := url.port.filter fun port => defaultPort? scheme != some port }

/-- The URL with the path that a text writes; a path that nobody interprets
stays. -/
def withPath (url : Url) (text : String) : Url :=
  match url.path with
  | .segments _ =>
      let characters := text.toList.filter fun character =>
        !isInterruption character
      { url with path := readPath url.scheme characters }
  | .uninterpreted _ => url

/-- The URL of a place below that of a URL. -/
def below (url : Url) (place : String) : Url :=
  url.withPath (url.path.trimmedText ++ place)

end WorkspaceStartup.Url
