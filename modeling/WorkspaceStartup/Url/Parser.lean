import WorkspaceStartup.Url.Basic
import WorkspaceStartup.Text.Blank

/-!
# Reading URLs

A text is read as an absolute URL.  Blanks and control characters around it
and line breaks inside it are dropped.  A special scheme takes backslashes for
slashes and needs a host; the path loses its dot segments, also where the dots
are percent-encoded.
-/

namespace WorkspaceStartup.Url

/-- Characters dropped around a URL. -/
def isSurrounding (character : Char) : Bool := character.toNat ≤ 0x20

/-- Characters dropped everywhere in a URL. -/
def isInterruption (character : Char) : Bool :=
  character == '\t' || character == '\n' || character == '\r'

/-- The characters of a URL without those that are dropped. -/
def tidy (text : String) : List Char :=
  (Text.dropAroundWhile isSurrounding text.toList).filter fun character =>
    !isInterruption character

def isAsciiLetter (character : Char) : Bool :=
  ('a' ≤ character && character ≤ 'z') || ('A' ≤ character && character ≤ 'Z')

def isSchemeChar (character : Char) : Bool :=
  isAsciiLetter character || character.isDigit ||
    ['+', '-', '.'].contains character

/-- The scheme before the first colon, in small letters, and the rest. -/
def readScheme? (characters : List Char) : Option (String × List Char) :=
  let name := characters.takeWhile isSchemeChar
  match characters.head?, characters.dropWhile isSchemeChar with
  | some first, ':' :: rest =>
      if isAsciiLetter first then
        some (String.ofList (name.map Char.toLower), rest)
      else none
  | _, _ => none

/-- A slash, or in a special scheme a backslash. -/
def isSlash (special : Bool) (character : Char) : Bool :=
  character == '/' || (special && character == '\\')

/-- The character ends the authority. -/
def endsAuthority (special : Bool) (character : Char) : Bool :=
  isSlash special character || character == '?' || character == '#'

/-- The user name and the password, percent-encoded. -/
def readCredentials (characters : List Char) : String × String :=
  let encoded (part : List Char) : String :=
    String.ofList (encode mustEncodeInUserinfo part)
  match Text.cutFirst? [':'] characters with
  | some (username, password) => (encoded username, encoded password)
  | none => (encoded characters, "")

/-- The characters up to the colon before the port, which may stand in brackets. -/
def takeHost (bracketed : Bool) : List Char → List Char × List Char
  | [] => ([], [])
  | character :: rest =>
      if character = ':' ∧ !bracketed then ([], character :: rest)
      else
        let bracketed :=
          if character = '[' then true
          else if character = ']' then false
          else bracketed
        let (host, rest) := takeHost bracketed rest
        (character :: host, rest)

/-- The port in its digits; the default port of the scheme counts as none. -/
def readPort (scheme : String) (digits : List Char) : Except Defect (Option Nat) :=
  if digits.isEmpty then .ok none
  else
    match Text.readDigits? 10 digits with
    | none => .error .badPort
    | some port =>
        if 65535 < port then .error .badPort
        else if defaultPort? scheme = some port then .ok none
        else .ok (some port)

/-- The authority of a URL, and what follows the digits of its port. -/
structure Authority where
  username : String
  password : String
  host : Host
  port : Option Nat
  rest : List Char

/-- Reads the host and the port after the user information. -/
def readHostAndPort (scheme : String) (credentials : String × String)
    (characters : List Char) : Except Defect Authority := do
  let special := isSpecial scheme
  let (hostPart, portPart) := takeHost false characters
  if special && hostPart.isEmpty then .error .emptyHost
  let host ← if special then Host.read hostPart else Host.readOpaque hostPart
  let named := !credentials.1.isEmpty || !credentials.2.isEmpty
  if host = .name "" ∧ (named ∨ !portPart.isEmpty) then .error .emptyHost
  -- A backslash ends the port in any scheme.
  let digits := (portPart.drop 1).takeWhile (· != '\\')
  let port ← readPort scheme digits
  return {
    username := credentials.1
    password := credentials.2
    host := host
    port := port
    rest := (portPart.drop 1).dropWhile (· != '\\') }

/-- Reads the authority between the slashes and the path. -/
def readAuthority (scheme : String) (characters : List Char) (followed : Bool) :
    Except Defect Authority :=
  match Text.cutLast? '@' characters with
  | none => readHostAndPort scheme ("", "") characters
  | some ([], hostAndPort) =>
      if hostAndPort.isEmpty && followed then .error .emptyHost
      else readHostAndPort scheme ("", "") hostAndPort
  | some (userinfo, hostAndPort) =>
      readHostAndPort scheme (readCredentials userinfo) hostAndPort

/-- The segment stands for the place where it is. -/
def isSingleDot (segment : List Char) : Bool :=
  let segment := segment.map Char.toLower
  segment == ['.'] || segment == ['%', '2', 'e']

/-- The segment stands for the place above. -/
def isDoubleDot (segment : List Char) : Bool :=
  let segment := segment.map Char.toLower
  [['.', '.'], ['.', '%', '2', 'e'], ['%', '2', 'e', '.'],
    ['%', '2', 'e', '%', '2', 'e']].contains segment

/-- A letter and a colon, or the vertical bar that stands for one. -/
def isDrive (segment : List Char) : Bool :=
  match segment with
  | [letter, mark] => isAsciiLetter letter && (mark == ':' || mark == '|')
  | _ => false

/-- The pieces of a path between its slashes. -/
def pathPieces (special : Bool) (characters : List Char) : List (List Char) :=
  Text.pieces '/' (characters.map fun character =>
    if isSlash special character then '/' else character)

/-- The segments above, of which a drive at the root is the last to stay. -/
def shorten (file : Bool) (reversed : List (List Char)) : List (List Char) :=
  match reversed with
  | [only] => if file && isDrive only then [only] else []
  | _ :: others => others
  | [] => []

/-- The segments of a path whose earlier ones are given, the latest first. -/
def walk (file : Bool) (reversed : List (List Char)) :
    List (List Char) → List (List Char)
  | [] => reversed.reverse
  | segment :: rest =>
      -- Dots at the end of a path leave an empty segment there.
      let last := rest.isEmpty
      if isDoubleDot segment then
        let above := shorten file reversed
        walk file (if last then [] :: above else above) rest
      else if isSingleDot segment then
        walk file (if last then [] :: reversed else reversed) rest
      else if file && reversed.isEmpty && isDrive segment then
        walk file ((segment.take 1 ++ [':']) :: reversed) rest
      else walk file (encode mustEncodeInPath segment :: reversed) rest

/-- The path of a URL with an authority or with a leading slash. -/
def readPath (scheme : String) (characters : List Char) : Path :=
  let special := isSpecial scheme
  let file := scheme == "file"
  let named (segments : List (List Char)) : Path :=
    .segments (segments.map String.ofList)
  match characters with
  | [] => if special then .segments [""] else .segments []
  | first :: rest =>
      let inside := if isSlash special first then rest else characters
      let segments := walk file [] (pathPieces special inside)
      -- Slashes at the front of the path of a file count as one.
      let segments :=
        if file then
          match segments.dropWhile List.isEmpty with
          | [] => [[]]
          | segments => segments
        else segments
      named segments

/-- The query and the fragment at the end of a URL. -/
def readTail (special : Bool) (characters : List Char) :
    Option String × Option String :=
  let fragmentOf (part : List Char) : String :=
    String.ofList (encode mustEncodeInFragment part)
  match characters with
  | '?' :: rest =>
      let query := rest.takeWhile (· != '#')
      let encoded := String.ofList (encode (mustEncodeInQuery special) query)
      match rest.dropWhile (· != '#') with
      | _ :: fragment => (some encoded, some (fragmentOf fragment))
      | [] => (some encoded, none)
  | '#' :: fragment => (none, some (fragmentOf fragment))
  | _ => (none, none)

/-- The characters before the query and the fragment, and those from there on. -/
def cutTail (characters : List Char) : List Char × List Char :=
  let ends := fun character => character == '?' || character == '#'
  (characters.takeWhile fun character => !ends character,
    characters.dropWhile fun character => !ends character)

/-- A URL whose authority starts here. -/
def readFromAuthority (scheme : String) (characters : List Char) :
    Except Defect Url := do
  let special := isSpecial scheme
  let inside := fun character => !endsAuthority special character
  let rest := characters.dropWhile inside
  let authority ←
    readAuthority scheme (characters.takeWhile inside) (!rest.isEmpty)
  let (path, tail) := cutTail (authority.rest ++ rest)
  let (query, fragment) := readTail special tail
  return {
    scheme := scheme
    username := authority.username
    password := authority.password
    host := some authority.host
    port := authority.port
    path := readPath scheme path
    query := query
    fragment := fragment }

/-- A URL without an authority. -/
def withoutAuthority (scheme : String) (host : Option Host) (path : Path)
    (tail : List Char) : Url :=
  let (query, fragment) := readTail (isSpecial scheme) tail
  { scheme := scheme
    username := ""
    password := ""
    host := host
    port := none
    path := path
    query := query
    fragment := fragment }

/-- A URL of a scheme that is not special. -/
def readOrdinary (scheme : String) (characters : List Char) : Except Defect Url :=
  match characters with
  | '/' :: '/' :: rest => readFromAuthority scheme rest
  | '/' :: _ =>
      let (path, tail) := cutTail characters
      .ok (withoutAuthority scheme none (readPath scheme path) tail)
  | _ =>
      let (path, tail) := cutTail characters
      .ok (withoutAuthority scheme none
        (.uninterpreted (String.ofList (encode isControl path))) tail)

/-- The host of a file, if the text names one that is not this machine. -/
def readFileHost (characters : List Char) : Except Defect (Option Host) := do
  if characters.isEmpty then return none
  let host ← Host.read characters
  return if host = .name "localhost" then none else some host

/-- The path starts with a drive, which no other machine can have. -/
def startsWithDrive : Path → Bool
  | .segments (first :: _) => isDrive first.toList
  | _ => false

/-- The URL of a file. -/
def readFile (scheme : String) (characters : List Char) : Except Defect Url :=
  match characters with
  | first :: second :: rest =>
      if isSlash true first && isSlash true second then do
        let inside := fun character => !endsAuthority true character
        let hostPart := rest.takeWhile inside
        if isDrive hostPart then
          let (path, tail) := cutTail rest
          return withoutAuthority scheme none (readPath scheme path) tail
        let host ← readFileHost hostPart
        let (path, tail) := cutTail (rest.dropWhile inside)
        let path := readPath scheme path
        let host := if startsWithDrive path then none else host
        return withoutAuthority scheme host path tail
      else
        let (path, tail) := cutTail characters
        .ok (withoutAuthority scheme none (readPath scheme path) tail)
  | _ =>
      let (path, tail) := cutTail characters
      .ok (withoutAuthority scheme none (readPath scheme path) tail)

/-- The URL that a text writes. -/
def parse (text : String) : Except Defect Url :=
  match readScheme? (tidy text) with
  | none => .error .relative
  | some (scheme, rest) =>
      if scheme = "file" then readFile scheme rest
      else if isSpecial scheme then
        readFromAuthority scheme (rest.dropWhile (isSlash true))
      else readOrdinary scheme rest

/-- The URL that a text writes, if it writes one. -/
def parse? (text : String) : Option Url := (parse text).toOption

end WorkspaceStartup.Url
