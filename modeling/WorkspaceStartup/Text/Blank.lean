/-!
# Blank characters

The characters that Unicode calls white space, and the trimming of texts by
them.  The list is complete, so a text trimmed here neither starts nor ends
with any of them.
-/

namespace WorkspaceStartup.Text

/-- A character is blank when Unicode lists it as white space. -/
def isBlank (character : Char) : Bool :=
  let code := character.toNat
  (9 ≤ code && code ≤ 13) || code == 0x20 || code == 0x85 || code == 0xA0 ||
    code == 0x1680 || (0x2000 ≤ code && code ≤ 0x200A) || code == 0x2028 ||
    code == 0x2029 || code == 0x202F || code == 0x205F || code == 0x3000

/-- Drops what satisfies the test from the end of a list. -/
def dropEndWhile (test : α → Bool) (characters : List α) : List α :=
  (characters.reverse.dropWhile test).reverse

/-- Drops what satisfies the test from both ends of a list. -/
def dropAroundWhile (test : α → Bool) (characters : List α) : List α :=
  dropEndWhile test (characters.dropWhile test)

/-- The text without the blanks at its two ends. -/
def trim (text : String) : String :=
  String.ofList (dropAroundWhile isBlank text.toList)

end WorkspaceStartup.Text
