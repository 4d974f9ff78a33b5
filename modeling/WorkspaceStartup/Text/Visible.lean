import WorkspaceStartup.Text.Assigned
import WorkspaceStartup.Text.Mark

/-!
# Characters that show something by themselves

Control and format characters, separators other than the space, characters of
private use, codes without a character, and the marks that extend the
character before them show nothing by themselves.
-/

namespace WorkspaceStartup.Text

/-- The control and format characters, the separators and the codes of private use. -/
def formatCodes : List CodeRange :=
  readCodeRanges
  ["80-A0 AD 600-605 61C 6DD 70F 890-891 8E2 1680 180E 2000-200F 2028-202F 205F-2064",
   "2066-206F 3000 E000-F8FF FEFF FFF9-FFFB 110BD 110CD 13430-1343F 1BCA0-1BCA3 1D173-1D17A",
   "E0001 E0020-E007F F0000-FFFFD 100000-10FFFD"]

/-- The character shows something by itself. -/
def isVisible (character : Char) : Bool :=
  if character.toNat < 0x7F then 0x20 ≤ character.toNat
  else
    !isAmong formatCodes character && isAssigned character &&
      !isExtending character

end WorkspaceStartup.Text
