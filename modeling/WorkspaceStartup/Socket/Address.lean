import WorkspaceStartup.Text.Numeral
import WorkspaceStartup.Text.Split

/-!
# Addresses of sockets

A socket is opened at an address with a scheme, an authority and a target.
The reading is strict: it accepts only the characters that an address may
hold, changes none of them, and leaves out only the fragment.  A text without
a scheme is either a bare authority or a bare target.
-/

namespace WorkspaceStartup

structure SocketAddress where
  scheme : Option String
  /-- User information, host and port; empty for a bare target. -/
  authority : String
  /-- The path and the query. -/
  target : String
  deriving DecidableEq, Repr

namespace SocketAddress

/-- Letters, digits and the marks that are allowed in every part. -/
def isPlain (character : Char) : Bool :=
  character.isAlphanum || "-._~!$&\x27()*+,;=".toList.contains character

def isSchemeCharacter (character : Char) : Bool :=
  character.isAlphanum || "+-.~".toList.contains character

def isPathCharacter (character : Char) : Bool :=
  isPlain character || "/:@[\\]^|%\"\x7b\x7d".toList.contains character ||
    0x80 ≤ character.toNat

def isQueryCharacter (character : Char) : Bool :=
  let code := character.toNat
  code == 0x21 || (0x24 ≤ code && code ≤ 0x3B) || code == 0x3D ||
    (0x3F ≤ code && code != 0x7F)

/-- The marks that end an authority. -/
def endsAuthority (character : Char) : Bool :=
  character == '/' || character == '?' || character == '#'

/-- What has been noticed of an authority from its start to some place. -/
structure AuthorityReading where
  /-- Colons since the last mark that made the earlier ones meaningless. -/
  colons : Nat
  opened : Bool
  closed : Bool
  percent : Bool
  /-- The place follows an at sign. -/
  afterAt : Bool
  deriving DecidableEq, Repr

namespace AuthorityReading

def start : AuthorityReading := ⟨0, false, false, false, false⟩

/-- How many colons may stand in a row of groups. -/
def colonLimit : Nat := 8

/-- Notices one more character, if it may stand there. -/
def notice? (reading : AuthorityReading) (character : Char) :
    Option AuthorityReading :=
  let reading := { reading with afterAt := false }
  if character = ':' then
    if colonLimit ≤ reading.colons then none
    else some { reading with colons := reading.colons + 1 }
  else if character = '[' then
    if reading.percent || reading.opened then none
    else some { reading with opened := true }
  else if character = ']' then
    if !reading.opened || reading.closed then none
    else some { reading with closed := true, colons := 0, percent := false }
  else if character = '@' then
    some { reading with afterAt := true, colons := 0, percent := false }
  else if character = '%' then some { reading with percent := true }
  else if isPlain character then some reading
  else none

/-- The authority may end here. -/
def isComplete (reading : AuthorityReading) : Bool :=
  reading.opened == reading.closed && reading.colons ≤ 1 &&
    !reading.percent && !reading.afterAt

end AuthorityReading

/-- The characters are an authority. -/
def isAuthority (characters : List Char) : Bool :=
  (characters.foldlM AuthorityReading.notice? .start).any (·.isComplete)

/-- A path with its query, without the fragment, if its characters are allowed. -/
def readTarget? (characters : List Char) : Option String :=
  let shown := characters.takeWhile (· != '#')
  let path := shown.takeWhile (· != '?')
  let query := (shown.dropWhile (· != '?')).drop 1
  if path.all isPathCharacter && query.all isQueryCharacter then
    some (String.ofList shown)
  else none

/-- The longest scheme that is read. -/
def schemeLimit : Nat := 64

/-- The scheme before the mark of an authority, and what follows the mark. -/
def cutScheme? (characters : List Char) : Option (List Char × List Char) :=
  let scheme := characters.takeWhile isSchemeCharacter
  (Text.after? "://".toList (characters.drop scheme.length)).map fun rest =>
    (scheme, rest)

/-- The longest address that is read, in bytes. -/
def lengthLimit : Nat := 65534

/-- The address that a text writes. -/
def read? (text : String) : Option SocketAddress :=
  if lengthLimit < text.utf8ByteSize then none
  else
    match text.toList with
    | [] => none
    | '/' :: characters =>
        (readTarget? ('/' :: characters)).map fun target => ⟨none, "", target⟩
    | ['*'] => some ⟨none, "", "*"⟩
    | characters =>
        match cutScheme? characters with
        | some (scheme, rest) =>
            let authority := rest.takeWhile fun character => !endsAuthority character
            if schemeLimit < scheme.length || authority.isEmpty ||
                !isAuthority authority then none
            else
              (readTarget? (rest.drop authority.length)).map fun target =>
                ⟨some (String.ofList scheme), String.ofList authority, target⟩
        | none =>
            if isAuthority characters then
              some ⟨none, String.ofList characters, ""⟩
            else none

/-- The path, without the query. -/
def path (address : SocketAddress) : String :=
  String.ofList (address.target.toList.takeWhile (· != '?'))

/-- What a visitor asks the host for: a target that is missing is a slash. -/
def requestTarget (address : SocketAddress) : String :=
  if address.target.isEmpty then "/" else address.target

/-- The host and the port of the authority, as they are written. -/
def hostAndPort (address : SocketAddress) : String :=
  match Text.cutLast? '@' address.authority.toList with
  | some (_, rest) => String.ofList rest
  | none => address.authority

/-- The host, if the address has an authority; an address in brackets is freed of them. -/
def host? (address : SocketAddress) : Option String :=
  if address.authority.isEmpty then none
  else
    match address.hostAndPort.toList with
    | '[' :: characters =>
        some (String.ofList (characters.takeWhile (· != ']')))
    | characters => some (String.ofList (characters.takeWhile (· != ':')))

/-- The port that is written at the end of the authority. -/
def writtenPort? (address : SocketAddress) : Option Nat := do
  let (_, digits) ← Text.cutLast? ':' address.authority.toList
  (Text.readUnsigned? digits).filter (· < 0x10000)

/-- The port that is written, or else the one that the scheme means. -/
def port? (address : SocketAddress) : Option Nat :=
  match address.writtenPort?, address.scheme with
  | some port, _ => some port
  | none, some "ws" => some 80
  | none, some "wss" => some 443
  | none, _ => none

end SocketAddress

end WorkspaceStartup
