import WorkspaceStartup.Json.Basic
import WorkspaceStartup.Json.Shortest

/-!
# Writing JSON

Values are written without blanks, the members of an object in the order they
are listed in.  A text escapes the quotation mark, the backslash and the
control characters below the space, and nothing else.
-/

namespace WorkspaceStartup

namespace Number

/-- Digits as a plain decimal fraction with at least one digit on each side of the point. -/
def plain (digits : List Char) (point : Int) : List Char :=
  let count : Int := digits.length
  if count ≤ point then
    digits ++ List.replicate (point - count).toNat '0' ++ ['.', '0']
  else if 0 < point then
    digits.take point.toNat ++ '.' :: digits.drop point.toNat
  else '0' :: '.' :: (List.replicate (-point).toNat '0' ++ digits)

/-- Digits with the point after the first one and a power of ten. -/
def scientific (digits : List Char) (point : Int) : List Char :=
  let fraction :=
    match digits with
    | first :: second :: others => first :: '.' :: second :: others
    | _ => digits
  let power := point - 1
  let sign := if power < 0 then '-' else '+'
  fraction ++ 'e' :: sign :: Nat.toDigits 10 power.natAbs

/--
A positive number is plain when the first digit stands from the fifth place
after the point to the sixteenth before it, and scientific otherwise.
-/
def writeMagnitude (form : DecimalForm) : List Char :=
  let digits := Nat.toDigits 10 form.digits
  let point := form.exponent + digits.length
  if -5 < point ∧ point ≤ 16 then plain digits point
  else scientific digits point

/-- The bit that is set in a negative real number. -/
def signBit : Nat := 0x8000000000000000

/-- A real number in its shortest decimal form. -/
def writeReal (bits : UInt64) : List Char :=
  let sign := if bits.toNat < signBit then [] else ['-']
  let magnitude := UInt64.ofNat (bits.toNat % signBit)
  if magnitude = 0 then sign ++ ['0', '.', '0']
  else sign ++ writeMagnitude (Binary.ofBits magnitude).shortest

def write : Number → List Char
  | .integer value =>
      if value < 0 then '-' :: Nat.toDigits 10 value.natAbs
      else Nat.toDigits 10 value.natAbs
  | .real bits => writeReal bits

end Number

namespace Json

/-- A character inside a quoted text. -/
def escape (character : Char) : List Char :=
  if character = '"' then ['\\', '"']
  else if character = '\\' then ['\\', '\\']
  else if character = '\x08' then ['\\', 'b']
  else if character = '\x0c' then ['\\', 'f']
  else if character = '\n' then ['\\', 'n']
  else if character = '\r' then ['\\', 'r']
  else if character = '\t' then ['\\', 't']
  else if character.toNat < 0x20 then
    '\\' :: 'u' :: Text.hexadecimal 4 character.toNat
  else [character]

/-- A text between quotation marks. -/
def quote (text : String) : List Char :=
  '"' :: (text.toList.flatMap escape ++ ['"'])

mutual

/-- The characters that write a value. -/
def write : Json → List Char
  | .null => "null".toList
  | .bool true => "true".toList
  | .bool false => "false".toList
  | .number value => value.write
  | .text value => quote value
  | .array items => '[' :: (writeItems items ++ [']'])
  | .object members => '{' :: (writeMembers members ++ ['}'])

/-- The items of an array with a comma between each two. -/
def writeItems : List Json → List Char
  | [] => []
  | [item] => write item
  | item :: next :: items => write item ++ ',' :: writeItems (next :: items)

/-- The members of an object with a comma between each two. -/
def writeMembers : List (String × Json) → List Char
  | [] => []
  | [(name, value)] => quote name ++ ':' :: write value
  | (name, value) :: next :: members =>
      quote name ++ ':' :: (write value ++ ',' :: writeMembers (next :: members))

end

def print (value : Json) : String :=
  String.ofList value.write

end Json

end WorkspaceStartup
