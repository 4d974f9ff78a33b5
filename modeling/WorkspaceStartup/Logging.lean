import WorkspaceStartup.Settings.Override
import WorkspaceStartup.Text.Ascii

/-!
# Logging

Log records have levels.  A level is named by a word or by a number from 1,
for errors only, to 5, for everything.  What is to be logged is written as a
list of directives: the level for all modules, then the levels of single ones.
-/

namespace WorkspaceStartup

/-- The least important records that are logged. -/
inductive LogLevel
  | error
  | warn
  | info
  | debug
  | trace
  deriving DecidableEq, Repr

namespace LogLevel

def all : List LogLevel := [error, warn, info, debug, trace]

def word : LogLevel → String
  | error => "error"
  | warn => "warn"
  | info => "info"
  | debug => "debug"
  | trace => "trace"

/-- The level of a word in capital or small letters. -/
def ofWord? (text : String) : Option LogLevel :=
  let word := Text.lowered text
  all.find? fun level => level.word == word

/-- The level that a number or a word names. -/
def read? (text : String) : Option LogLevel :=
  match readWord? text with
  | some 0 => none
  | some (position + 1) => all[position]?
  | none => ofWord? text

end LogLevel

structure Logging where
  level : LogLevel
  /-- The levels of single modules, in the order of their names. -/
  modules : List (String × LogLevel)
  json : Bool
  deriving DecidableEq, Repr

namespace Logging

/-- The logging that settings ask for; what names no level is passed over. -/
def ofSettings (settings : LoggingSettings) : Logging where
  level := (LogLevel.read? settings.level).getD .info
  modules := settings.modules.entries.filterMap fun entry =>
    (LogLevel.read? entry.2).map fun level => (entry.1, level)
  json := settings.json

def directives (logging : Logging) : String :=
  logging.level.word ++ String.join (logging.modules.map fun entry =>
    "," ++ entry.1 ++ "=" ++ entry.2.word)

end Logging

end WorkspaceStartup
