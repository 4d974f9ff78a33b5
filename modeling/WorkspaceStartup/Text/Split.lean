/-!
# Cutting texts

Texts are cut at the first or the last occurrence of a mark, at every
occurrence of a character, and into lines.
-/

namespace WorkspaceStartup.Text

/-- What follows the mark, when the characters start with it. -/
def after? [BEq α] : (mark characters : List α) → Option (List α)
  | [], characters => some characters
  | _ :: _, [] => none
  | expected :: mark, character :: characters =>
      if expected == character then after? mark characters else none

/-- The parts before and after the first occurrence of the mark. -/
def cutFirst? [BEq α] (mark : List α) : List α → Option (List α × List α)
  | [] => (after? mark []).map fun rest => ([], rest)
  | character :: characters =>
      match after? mark (character :: characters) with
      | some rest => some ([], rest)
      | none =>
          (cutFirst? mark characters).map fun parts =>
            (character :: parts.1, parts.2)

/-- The parts before and after the last occurrence of one character. -/
def cutLast? [BEq α] (mark : α) : List α → Option (List α × List α)
  | [] => none
  | character :: characters =>
      match cutLast? mark characters with
      | some parts => some (character :: parts.1, parts.2)
      | none => if character == mark then some ([], characters) else none

/-- The pieces between the occurrences of one character, never none. -/
def pieces [BEq α] (mark : α) : List α → List (List α)
  | [] => [[]]
  | character :: characters =>
      if character == mark then [] :: pieces mark characters
      else
        match pieces mark characters with
        | [] => [[character]]
        | piece :: others => (character :: piece) :: others

/-- A line without the carriage return that stood before its line feed. -/
def withoutReturn (line : List Char) : List Char :=
  if line.getLast? = some '\r' then line.dropLast else line

/--
The lines of a text whose beginning has been read into `current`, latest
character first.  A last line without a line feed keeps a carriage return,
and an empty one is no line.
-/
def linesFrom (current : List Char) : List Char → List (List Char)
  | [] => if current.isEmpty then [] else [current.reverse]
  | '\n' :: characters =>
      withoutReturn current.reverse :: linesFrom [] characters
  | character :: characters => linesFrom (character :: current) characters

/-- The lines of a text. -/
def lines (text : String) : List String :=
  (linesFrom [] text.toList).map String.ofList

/-- Texts joined with a mark between each two. -/
def join (mark : String) : List String → String
  | [] => ""
  | [text] => text
  | text :: others => text ++ mark ++ join mark others

end WorkspaceStartup.Text
