import WorkspaceStartup.Settings.Basic
import WorkspaceStartup.Text.Ascii

/-!
# Settings from the environment

Variables of the environment override single settings.  An empty value counts
as absent, and a value that cannot be read, or is out of its range, changes
nothing.
-/

namespace WorkspaceStartup

/-- The truth value that one of eight words names, in capital or small letters. -/
def readBool? (text : String) : Option Bool :=
  let word := Text.lowered text
  if ["true", "1", "yes", "on"].contains word then some true
  else if ["false", "0", "no", "off"].contains word then some false
  else none

/-- The number of at most sixty-four bits that a text writes. -/
def readWord? (text : String) : Option Nat :=
  (Text.readUnsigned? text.toList).filter (· ≤ Json.wordLimit)

/-- The number in a range that a text writes. -/
def readInRange? (text : String) (least greatest : Nat) : Option Nat :=
  (readWord? text).filter fun number => least ≤ number && number ≤ greatest

namespace Settings

/-- The names of the variables that override settings. -/
def variableNames : List String :=
  ["WSBOOT_SERVER_URL", "WSBOOT_BUS_URL", "WSBOOT_RECONNECT_BUDGET",
  "WSBOOT_RETRY_DELAY_MS", "WSBOOT_STATUS_POLL_MS", "WSBOOT_LOG_LEVEL",
  "WSBOOT_LOG_JSON"]

/-- Applies a value to settings, if there is one and it can be read. -/
def override (settings : Settings) (value : Option α)
    (apply : Settings → α → Settings) : Settings :=
  match value with
  | some value => apply settings value
  | none => settings

/-- The settings with the overrides of an environment. -/
def withEnvironment (settings : Settings) (lookup : String → Option String) :
    Settings :=
  let read (name : String) : Option String :=
    (lookup name).filter fun value => !value.isEmpty
  let number (name : String) (least greatest : Nat) : Option Nat :=
    (read name).bind fun value => readInRange? value least greatest
  settings
    |>.override (read "WSBOOT_SERVER_URL") (fun settings url =>
        { settings with serverUrl := url })
    |>.override (read "WSBOOT_BUS_URL") (fun settings url =>
        { settings with busUrl := some url })
    |>.override (number "WSBOOT_RECONNECT_BUDGET" 1 10000)
        (fun settings budget => { settings with reconnectBudget := budget })
    |>.override (number "WSBOOT_RETRY_DELAY_MS" 10 600000)
        (fun settings delay => { settings with retryDelayMs := delay })
    |>.override (number "WSBOOT_STATUS_POLL_MS" 50 600000)
        (fun settings delay => { settings with statusPollMs := delay })
    |>.override (read "WSBOOT_LOG_LEVEL") (fun settings level =>
        { settings with logging := { settings.logging with level := level } })
    |>.override ((read "WSBOOT_LOG_JSON").bind readBool?) (fun settings json =>
        { settings with logging := { settings.logging with json := json } })

end Settings

end WorkspaceStartup
