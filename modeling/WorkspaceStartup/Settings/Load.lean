import WorkspaceStartup.Settings.Merge
import WorkspaceStartup.Settings.Override
import WorkspaceStartup.Text.Utf8

/-!
# Loading settings

The settings of a user are layered: the defaults lie below, a file is merged
over them, and the environment overrides both.
-/

namespace WorkspaceStartup

/-- What is found at the place of the settings file. -/
inductive SettingsFile
  | absent
  | directory
  | bytes (content : List UInt8)

/-- Why settings cannot be loaded. -/
inductive SettingsFailure
  | notText
  | isDirectory
  | unreadable (defect : Json.DefectClass)
  deriving DecidableEq, Repr

namespace SettingsFailure

def text : SettingsFailure → String
  | notText => "failed to read settings file: InvalidData"
  | isDirectory => "failed to read settings file: IsADirectory"
  | unreadable _ => "failed to parse settings JSON"

end SettingsFailure

namespace Settings

/-- Where the settings file of a user lies, by the user's home. -/
def path (home : Option String) : String :=
  let home := home.getD "/tmp"
  let file := ".wsboot/settings.json"
  if home.isEmpty || home.endsWith "/" then home ++ file else home ++ "/" ++ file

/-- The JSON of a file, if the file is there. -/
def fileValue? : SettingsFile → Except SettingsFailure (Option Json)
  | .absent => .ok none
  | .directory => .error .isDirectory
  | .bytes content =>
      match Text.textOfBytes? content with
      | none => .error .notText
      | some text =>
          match Json.parse text with
          | .ok value => .ok (some value)
          | .error .truncated => .error (.unreadable .endOfText)
          | .error .malformed => .error (.unreadable .notJson)

/-- The JSON of all layers below the environment. -/
def layered (file : Option Json) : Json :=
  match file with
  | some value => Settings.default.encode.mergeOver value
  | none => Settings.default.encode

/-- The settings of a file and an environment. -/
def load (file : SettingsFile) (lookup : String → Option String) :
    Except SettingsFailure Settings := do
  let value ← fileValue? file
  match (Json.Source.value (layered value)).decode decode with
  | .ok settings => return settings.withEnvironment lookup
  | .error defect => .error (.unreadable defect)

end Settings

end WorkspaceStartup
