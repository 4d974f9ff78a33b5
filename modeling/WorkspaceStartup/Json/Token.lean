import WorkspaceStartup.Json.Basic
import WorkspaceStartup.Text.Numeral

/-!
# JSON tokens

The text of a value is cut into marks, numbers, quoted texts and the three
words.  Where a text stops making sense the last token is a broken one.  Such
a fault has one of two kinds: either the text ends too early, or something
stands where it must not.

A quoted text may be in order as a run of characters and still not be a text,
because it escapes half of a surrogate pair.  Such a text is a whole token
that keeps its fault; the fault counts only when the text is wanted.
-/

namespace WorkspaceStartup

namespace Json

/-- Why characters are not JSON. -/
inductive Fault
  | truncated
  | malformed
  deriving DecidableEq, Repr

/-- A number as written: the digits before and after the point and in the power of ten. -/
structure Numeral where
  negative : Bool
  whole : List Nat
  fraction : List Nat
  powerNegative : Bool
  power : Option (List Nat)
  deriving DecidableEq, Repr

inductive Token
  | openArray
  | closeArray
  | openObject
  | closeObject
  | colon
  | comma
  | null
  | bool (value : Bool)
  | number (numeral : Numeral)
  | text (value : Except Fault String)
  /-- The character that opened the token, the fault found when its value is
  wanted, and the fault found when it is passed over. -/
  | broken (opening : Char) (wanted passed : Fault)

/-- The blanks allowed between tokens. -/
def isSpace (character : Char) : Bool :=
  character == ' ' || character == '\n' || character == '\t' || character == '\r'

/-- How far a number has been read. -/
inductive NumberPlace
  | sign
  | zero
  | whole
  | point
  | fraction
  | mark
  | markSign
  | power
  deriving DecidableEq, Repr

namespace NumberPlace

/-- A number may end here. -/
def complete : NumberPlace → Bool
  | zero | whole | fraction | power => true
  | sign | point | mark | markSign => false

end NumberPlace

namespace Numeral

def empty (negative : Bool) : Numeral := ⟨negative, [], [], false, none⟩

/--
The numeral with one more character, which moves the reading on to a place.
While a numeral is read its digits are kept with the latest first.
-/
def extend (numeral : Numeral) (place : NumberPlace) (character : Char) :
    Numeral :=
  let digit := character.toNat - 48
  match place with
  | .zero | .whole => { numeral with whole := digit :: numeral.whole }
  | .fraction => { numeral with fraction := digit :: numeral.fraction }
  | .mark => { numeral with power := some [] }
  | .markSign => { numeral with powerNegative := character == '-' }
  | .power => { numeral with power := some (digit :: numeral.power.getD []) }
  | .sign | .point => numeral

/-- The numeral that has been read, its digits in the order of the text. -/
def inOrder (numeral : Numeral) : Numeral :=
  { numeral with
    whole := numeral.whole.reverse
    fraction := numeral.fraction.reverse
    power := numeral.power.map List.reverse }

end Numeral

/-- Where the next character of a number leads. -/
inductive NumberMove
  | on (place : NumberPlace)
  | done
  | wrong

/-- The move made by a character at a place of a number. -/
def NumberPlace.next (place : NumberPlace) (character : Char) : NumberMove :=
  let afterWhole : NumberMove :=
    if character = '.' then .on .point
    else if character = 'e' ∨ character = 'E' then .on .mark
    else .done
  match place with
  | .sign =>
      if character = '0' then .on .zero
      else if character.isDigit then .on .whole
      else .wrong
  | .zero => if character.isDigit then .wrong else afterWhole
  | .whole => if character.isDigit then .on .whole else afterWhole
  | .point => if character.isDigit then .on .fraction else .wrong
  | .fraction =>
      if character.isDigit then .on .fraction
      else if character = 'e' ∨ character = 'E' then .on .mark
      else .done
  | .mark =>
      if character = '+' ∨ character = '-' then .on .markSign
      else if character.isDigit then .on .power
      else .wrong
  | .markSign => if character.isDigit then .on .power else .wrong
  | .power => if character.isDigit then .on .power else .done

/-- How the next character of a quoted text is to be taken. -/
inductive TextMode
  | plain
  | escaped
  /-- Inside the four digits of an escaped unit: how many were read, and their value. -/
  | unit (count value : Nat)
  deriving DecidableEq, Repr

/--
A quoted text read so far: its characters, latest first, or the fault that
keeps it from being a text, and the upper half of a surrogate pair that still
waits for its lower half.
-/
structure TextReading where
  mode : TextMode
  waiting : Option Nat
  characters : Except Fault (List Char)

namespace TextReading

def start : TextReading := ⟨.plain, none, .ok []⟩

/-- One more character; a surrogate that waited for its other half is at fault. -/
def push (reading : TextReading) (character : Char) : TextReading :=
  match reading.waiting with
  | some _ =>
      { mode := .plain, waiting := none,
        characters := reading.characters.bind fun _ => .error .malformed }
  | none =>
      { mode := .plain, waiting := none,
        characters := reading.characters.map (character :: ·) }

/-- One more escaped unit of sixteen bits. -/
def pushUnit (reading : TextReading) (unit : Nat) : TextReading :=
  let isUpper := decide (0xD800 ≤ unit ∧ unit ≤ 0xDBFF)
  let isLower := decide (0xDC00 ≤ unit ∧ unit ≤ 0xDFFF)
  let atFault : TextReading :=
    { mode := .plain, waiting := none,
      characters := reading.characters.bind fun _ => .error .malformed }
  match reading.waiting with
  | some upper =>
      if isLower then
        let code := 0x10000 + (upper - 0xD800) * 0x400 + (unit - 0xDC00)
        { mode := .plain, waiting := none,
          characters := reading.characters.map (Char.ofNat code :: ·) }
      else atFault
  | none =>
      if isLower then atFault
      else if isUpper then
        { reading with mode := .plain, waiting := some unit }
      else reading.push (Char.ofNat unit)

/-- The character that an escape of one letter stands for. -/
def escapeOf? (letter : Char) : Option Char :=
  if letter = '"' then some '"'
  else if letter = '\\' then some '\\'
  else if letter = '/' then some '/'
  else if letter = 'b' then some '\x08'
  else if letter = 'f' then some '\x0c'
  else if letter = 'n' then some '\n'
  else if letter = 'r' then some '\r'
  else if letter = 't' then some '\t'
  else none

/-- A text that breaks off with this fault. -/
def broken (reading : TextReading) (fault : Fault) : Token :=
  match reading.characters with
  | .ok _ => .broken '"' fault fault
  | .error earlier => .broken '"' earlier fault

/-- The token of a text whose closing quotation mark has been read. -/
def token (reading : TextReading) : Token :=
  match reading.waiting with
  | some _ => .text (reading.characters.bind fun _ => .error .malformed)
  | none =>
      .text (reading.characters.map fun reversed => String.ofList reversed.reverse)

end TextReading

/-- The number of bytes of the characters, counted up to four. -/
def byteCount (characters : List Char) : Nat :=
  (characters.take 4).foldr (fun character count => character.utf8Size + count) 0

/-- What is being read at a place of the text. -/
inductive Mode
  | between
  | word (rest : List Char) (token : Token)
  | number (opening : Char) (place : NumberPlace) (numeral : Numeral)
  | text (reading : TextReading)

/-- The mode and the token that a character between tokens leads to. -/
def enter (character : Char) : Mode × List Token :=
  if isSpace character then (.between, [])
  else if character = '[' then (.between, [.openArray])
  else if character = ']' then (.between, [.closeArray])
  else if character = '{' then (.between, [.openObject])
  else if character = '}' then (.between, [.closeObject])
  else if character = ':' then (.between, [.colon])
  else if character = ',' then (.between, [.comma])
  else if character = '"' then (.text .start, [])
  else if character = 'n' then (.word ['u', 'l', 'l'] .null, [])
  else if character = 't' then (.word ['r', 'u', 'e'] (.bool true), [])
  else if character = 'f' then (.word ['a', 'l', 's', 'e'] (.bool false), [])
  else if character = '-' then (.number character .sign (.empty true), [])
  else if character = '0' then
    (.number character .zero ((Numeral.empty false).extend .zero character), [])
  else if character.isDigit then
    (.number character .whole ((Numeral.empty false).extend .whole character), [])
  else (.between, [.broken character .malformed .malformed])

/-- The first character of a word. -/
def Token.opening : Token → Char
  | .null => 'n'
  | .bool true => 't'
  | .bool false => 'f'
  | _ => ' '

/-- The token of a text that ends in this mode, if one is still open. -/
def finish : Mode → List Token
  | .between => []
  | .word _ token => [.broken token.opening .truncated .truncated]
  | .number opening place numeral =>
      if place.complete then [.number numeral.inOrder]
      else [.broken opening .truncated .malformed]
  | .text reading => [reading.broken .truncated]

/-- The tokens of the characters, read from a mode on. -/
def tokensFrom : Mode → List Char → List Token
  | mode, [] => finish mode
  | .between, character :: rest =>
      let (mode, tokens) := enter character
      tokens ++ tokensFrom mode rest
  | .word expected token, character :: rest =>
      match expected with
      | [last] =>
          if character = last then token :: tokensFrom .between rest
          else [.broken token.opening .malformed .malformed]
      | next :: others =>
          if character = next then tokensFrom (.word others token) rest
          else [.broken token.opening .malformed .malformed]
      | [] => [.broken token.opening .malformed .malformed]
  | .number opening place numeral, character :: rest =>
      match place.next character with
      | .on place =>
          tokensFrom (.number opening place (numeral.extend place character)) rest
      | .done =>
          let (mode, tokens) := enter character
          .number numeral.inOrder :: (tokens ++ tokensFrom mode rest)
      | .wrong => [.broken opening .malformed .malformed]
  | .text reading, character :: rest =>
      match reading.mode with
      | .plain =>
          if character = '"' then reading.token :: tokensFrom .between rest
          else if character = '\\' then
            tokensFrom (.text { reading with mode := .escaped }) rest
          else if character.toNat < 0x20 then [reading.broken .malformed]
          else tokensFrom (.text (reading.push character)) rest
      | .escaped =>
          if character = 'u' then
            tokensFrom (.text { reading with mode := .unit 0 0 }) rest
          else
            match TextReading.escapeOf? character with
            | some escaped => tokensFrom (.text (reading.push escaped)) rest
            | none => [reading.broken .malformed]
      | .unit count value =>
          match Text.digitOf? 16 character with
          | some digit =>
              let value := value * 16 + digit
              if count < 3 then
                tokensFrom
                  (.text { reading with mode := .unit (count + 1) value }) rest
              else tokensFrom (.text (reading.pushUnit value)) rest
          | none =>
              if count + byteCount (character :: rest) < 4 then
                [reading.broken .truncated]
              else [reading.broken .malformed]

def tokens (characters : List Char) : List Token :=
  tokensFrom .between characters

end Json

end WorkspaceStartup
