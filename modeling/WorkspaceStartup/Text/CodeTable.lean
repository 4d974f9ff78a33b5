import WorkspaceStartup.Text.Numeral
import WorkspaceStartup.Text.Split

/-!
# Tables of characters

A set of characters is given by the ranges of their codes.  A long table is
kept as lines of text: words with a blank between each two, each word a
hexadecimal code, or the first and the last code of a range with a hyphen
between them.
-/

namespace WorkspaceStartup.Text

/-- The codes from a first to a last one. -/
structure CodeRange where
  first : Nat
  last : Nat
  deriving DecidableEq, Repr

/-- The code lies in the range. -/
def CodeRange.contains (range : CodeRange) (code : Nat) : Bool :=
  range.first ≤ code && code ≤ range.last

/-- The character has a code in one of the ranges. -/
def isAmong (ranges : List CodeRange) (character : Char) : Bool :=
  ranges.any fun range => range.contains character.toNat

/-- The words of a table. -/
def tableWords (lines : List String) : List (List Char) :=
  lines.flatMap fun line => pieces ' ' line.toList

/-- The code that hexadecimal digits write. -/
def readCode (digits : List Char) : Nat :=
  (readDigits? 16 digits).getD 0

/-- The range that a word of a table writes. -/
def readCodeRange (word : List Char) : CodeRange :=
  match cutFirst? ['-'] word with
  | some (first, last) => ⟨readCode first, readCode last⟩
  | none => ⟨readCode word, readCode word⟩

/-- The ranges that a table writes. -/
def readCodeRanges (lines : List String) : List CodeRange :=
  (tableWords lines).map readCodeRange

end WorkspaceStartup.Text
