import WorkspaceStartup.Url.Domain.Direction
import WorkspaceStartup.Url.Domain.Joiner
import WorkspaceStartup.Url.Domain.Mapping
import WorkspaceStartup.Url.Punycode

/-!
# Domain names

A domain name is brought into its ASCII form: its characters are prepared and
composed, and each label with characters beyond ASCII is written in Punycode.
A label that already is in Punycode must stand for such a label.
-/

namespace WorkspaceStartup.Url.Domain

/-- ASCII characters that have no place in any domain name. -/
def isForbidden (character : Char) : Bool :=
  character.toNat ≤ 0x20 || character.toNat == 0x7F ||
    ['%', '#', '/', ':', '<', '>', '?', '@', '[', '\\', ']', '^', '|'].contains
      character

/-- A label as it is shown and as it is written. -/
structure Label where
  shown : List Char
  written : List Char
  deriving DecidableEq, Repr

/-- The letters that start a label in Punycode. -/
def acePrefix : List Char := ['x', 'n', '-', '-']

/-- The longest label beyond ASCII that is written. -/
def longestShown : Nat := 1000

/-- The longest Punycode that is read. -/
def longestWritten : Nat := 2000

/-- A prepared and composed label that a domain name may have. -/
def isProper (label : List Char) : Bool :=
  !label.head?.any Text.isMark && joinersStand [] label &&
    (label.all isAscii || label.length ≤ longestShown)

/-- Characters that stand for what a label in Punycode may hold. -/
def isCanonical (label : List Char) : Bool :=
  (label.all fun character =>
    isPrepared character && !isForbidden character && character != '.') &&
    compose label == label

/-- The label that a prepared and composed label is. -/
def readLabel? (label : List Char) : Option Label :=
  match Text.after? acePrefix label with
  | some form =>
      if label.getLast? = some '-' ∨ longestWritten < form.length then none
      else
        (Punycode.decode? form).bind fun shown =>
          if isCanonical shown && isProper shown then some ⟨shown, label⟩
          else none
  | none =>
      if !isProper label then none
      else if label.all isAscii then some ⟨label, label⟩
      else some ⟨label, acePrefix ++ Punycode.encode label⟩

/-- Labels with a point between each two. -/
def joinLabels : List (List Char) → List Char
  | [] => []
  | [label] => label
  | label :: labels => label ++ '.' :: joinLabels labels

/-- The characters of a name, prepared and composed. -/
def normalForm? (name : List Char) : Option (List Char) := do
  let prepared ← name.mapM prepare?
  let composed := compose prepared.flatten
  if composed.any isForbidden then none else some composed

/-- The ASCII form of a domain name. -/
def toAscii? (name : List Char) : Option (List Char) := do
  let composed ← normalForm? name
  let labels ← (Text.pieces '.' composed).mapM readLabel?
  if keepDirections (labels.map (·.shown)) then
    some (joinLabels (labels.map (·.written)))
  else none

end WorkspaceStartup.Url.Domain
