import WorkspaceStartup.Text.Numeral
import WorkspaceStartup.Text.Visible

/-!
# Quoted texts

A text between quotation marks for a reader: what would not show, or would end
the text, is escaped.
-/

namespace WorkspaceStartup.Text

/-- A character inside a quoted text. -/
def escapeForReader (character : Char) : List Char :=
  if character = '\x00' then ['\\', '0']
  else if character = '\t' then ['\\', 't']
  else if character = '\r' then ['\\', 'r']
  else if character = '\n' then ['\\', 'n']
  else if character = '\\' then ['\\', '\\']
  else if character = '"' then ['\\', '"']
  else if isVisible character then [character]
  else '\\' :: 'u' :: '\x7b' :: (hexadecimal 1 character.toNat ++ ['\x7d'])

/-- The text between quotation marks. -/
def quoted (text : String) : String :=
  String.ofList ('"' :: (text.toList.flatMap escapeForReader ++ ['"']))

end WorkspaceStartup.Text
