import WorkspaceStartup.Url.Domain
import WorkspaceStartup.Url.Percent

/-!
# Hosts

The host of a URL is a domain name, an address of version 4 or 6, or, in a URL
of a scheme that is not special, a name that nobody interprets.
-/

namespace WorkspaceStartup.Url

/-- Why a text is not a URL. -/
inductive Defect
  | emptyHost
  | badDomain
  | badPort
  | badAddress4
  | badAddress6
  | badCharacter
  | relative
  deriving DecidableEq, Repr

namespace Defect

def text : Defect → String
  | emptyHost => "empty host"
  | badDomain => "invalid international domain name"
  | badPort => "invalid port number"
  | badAddress4 => "invalid IPv4 address"
  | badAddress6 => "invalid IPv6 address"
  | badCharacter => "invalid domain character"
  | relative => "relative URL without a base"

end Defect

inductive Host
  | name (text : String)
  | address4 (value : Nat)
  | address6 (pieces : List Nat)
  deriving DecidableEq, Repr

/-- A part of an address of version 4. -/
inductive AddressPart
  | number (value : Nat)
  | tooLarge
  | malformed
  deriving DecidableEq, Repr

namespace Host

/-- Reads a part of an address: hexadecimal, octal or decimal digits. -/
def readPart (part : List Char) : AddressPart :=
  let read (base : Nat) (digits : List Char) : AddressPart :=
    -- A mark of the base without digits is zero.
    if digits.isEmpty then .number 0
    else
      match Text.readDigits? base digits with
      | some value => if value < 0x100000000 then .number value else .tooLarge
      | none => .malformed
  match part with
  | [] => .malformed
  | '0' :: 'x' :: digits => read 16 digits
  | '0' :: 'X' :: digits => read 16 digits
  | '0' :: digit :: digits => read 8 (digit :: digits)
  | digits => read 10 digits

/-- The parts of a dotted name, without an empty part at its end. -/
def addressParts (name : List Char) : List (List Char) :=
  let parts := Text.pieces '.' name
  if parts.getLast? = some [] ∧ 1 < parts.length then parts.dropLast else parts

/-- A name whose last part is a number must be an address. -/
def endsInNumber (name : List Char) : Bool :=
  match (addressParts name).getLast? with
  | none => false
  | some [] => false
  | some last => last.all Char.isDigit || readPart last != .malformed

/-- The address that numbers make up, the last one filling the rest. -/
def combineParts? (numbers : List Nat) : Option Nat :=
  match numbers.reverse with
  | [] => none
  | last :: others =>
      let leading := others.reverse
      -- Every number before the last is a byte.
      if 4 < numbers.length ∨ Nat.pow 256 (4 - leading.length) ≤ last ∨
          leading.any (255 < ·) then none
      else
        some (leading.zipIdx.foldr (fun (number, index) sum =>
          number * Nat.pow 256 (3 - index) + sum) last)

/-- The address of version 4 that a name writes. -/
def readAddress4? (name : List Char) : Option Nat := do
  let numbers ← (addressParts name).mapM fun part =>
    match readPart part with
    | .number value => some value
    | _ => none
  combineParts? numbers

/-- One of the four decimal parts at the end of an address of version 6. -/
def readByte? (digits : List Char) : Option Nat :=
  match digits with
  | [] => none
  | ['0'] => some 0
  | '0' :: _ => none
  | digits =>
      if 3 < digits.length then none
      else (Text.readDigits? 10 digits).filter (· ≤ 255)

/-- The two pieces that a dotted end of an address of version 6 writes. -/
def readTail4? (text : List Char) : Option (List Nat) := do
  let bytes ← (Text.pieces '.' text).mapM readByte?
  match bytes with
  | [first, second, third, fourth] =>
      some [first * 256 + second, third * 256 + fourth]
  | _ => none

def readPiece? (digits : List Char) : Option Nat :=
  if 4 < digits.length then none else Text.readDigits? 16 digits

/-- The pieces between colons; the last may be a dotted address. -/
def readPieces? : List (List Char) → Option (List Nat)
  | [] => some []
  | [last] =>
      if last.contains '.' then readTail4? last
      else (readPiece? last).map fun piece => [piece]
  | digits :: others => do
      let piece ← readPiece? digits
      let pieces ← readPieces? others
      return piece :: pieces

/-- The pieces of one side of a double colon. -/
def readSide? (text : List Char) : Option (List Nat) :=
  if text.isEmpty then some [] else readPieces? (Text.pieces ':' text)

/-- The eight pieces of an address of version 6. -/
def readAddress6? (text : List Char) : Option (List Nat) :=
  match Text.cutFirst? [':', ':'] text with
  | none => (readPieces? (Text.pieces ':' text)).filter (·.length == 8)
  | some (before, after) => do
      if before.contains '.' then none
      let front ← readSide? before
      let back ← readSide? after
      let count := front.length + back.length
      -- The double colon stands for one piece at least.
      if 8 ≤ count then none
      return front ++ List.replicate (8 - count) 0 ++ back

/-- The longest run of zeros from the front of some pieces. -/
def zeroRun (pieces : List Nat) : Nat := (pieces.takeWhile (· == 0)).length

/-- The start and the length of the first longest run of zeros. -/
def longestZeros (pieces : List Nat) : Nat × Nat :=
  (List.range pieces.length).foldl
    (fun best start =>
      let run := zeroRun (pieces.drop start)
      if best.2 < run then (start, run) else best)
    (0, 0)

def hexPieces (pieces : List Nat) : String :=
  Text.join ":" (pieces.map fun piece => String.ofList (Nat.toDigits 16 piece))

/-- An address of version 6 with its longest run of zeros left out. -/
def text6 (pieces : List Nat) : String :=
  let (start, run) := longestZeros pieces
  if run < 2 then hexPieces pieces
  else hexPieces (pieces.take start) ++ "::" ++ hexPieces (pieces.drop (start + run))

/-- An address of version 4 as four decimal numbers. -/
def text4 (value : Nat) : String :=
  Text.join "." ([0x1000000, 0x10000, 0x100, 1].map fun weight =>
    Text.decimal (value / weight % 256))

def text : Host → String
  | name text => text
  | address4 value => text4 value
  | address6 pieces => "[" ++ text6 pieces ++ "]"

/-- The address between brackets, if the host starts with one. -/
def readBracketed (characters : List Char) : Except Defect Host :=
  match characters.reverse with
  | ']' :: inside =>
      match readAddress6? inside.reverse with
      | some pieces => .ok (address6 pieces)
      | none => .error .badAddress6
  | _ => .error .badAddress6

/-- The host of a URL of a special scheme. -/
def read (characters : List Char) : Except Defect Host :=
  match characters with
  | '[' :: rest => readBracketed rest
  | _ =>
      match (Text.textOfBytes? (decodeBytes characters)).bind fun name =>
          Domain.toAscii? name.toList with
      | none => .error .badDomain
      | some [] => .error .emptyHost
      | some domain =>
          if endsInNumber domain then
            match readAddress4? domain with
            | some value => .ok (address4 value)
            | none => .error .badAddress4
          else .ok (name (String.ofList domain))

/-- Characters that no uninterpreted host may have. -/
def isForbidden (character : Char) : Bool :=
  ['\x00', '\t', '\n', '\r', ' ', '#', '/', ':', '<', '>', '?', '@', '[', '\\',
    ']', '^', '|'].contains character

/-- The host of a URL of another scheme, which is not interpreted. -/
def readOpaque (characters : List Char) : Except Defect Host :=
  match characters with
  | '[' :: rest => readBracketed rest
  | _ =>
      if characters.any isForbidden then .error .badCharacter
      else .ok (name (String.ofList (encode isControl characters)))

end Host

end WorkspaceStartup.Url
