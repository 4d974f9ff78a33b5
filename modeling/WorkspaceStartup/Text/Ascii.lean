/-!
# Letters of either size

Some words may be written in capital or in small letters.  Only the letters
from A to Z have two sizes here.
-/

namespace WorkspaceStartup.Text

/-- The text with small letters in place of the capital letters A to Z. -/
def lowered (text : String) : String :=
  String.ofList (text.toList.map Char.toLower)

end WorkspaceStartup.Text
