import ArenaThreads.Environment
import ArenaThreads.Event
/-! Where the log goes and how much of it: presets and settings from the environment. -/

namespace ArenaThreads

structure LogSettings where
  level : Level := .info
  fileOutput : Bool := false
  path : Option String := none
  json : Bool := false
  spans : Bool := false
  deriving DecidableEq, Repr

namespace LogSettings

def performance : LogSettings := { level := .error }

def defaultFileName : String := "typthon_threads.log"

def debug : LogSettings :=
  { level := .trace, fileOutput := true, path := some defaultFileName, spans := true }

/-- The level that a name gives, in any case; every other text gives the middle level. -/
def levelOf (name : String) : Level :=
  let lower := name.map Char.toLower
  if lower = "trace" then .trace
  else if lower = "debug" then .debug
  else if lower = "warn" then .warn
  else if lower = "error" then .error
  else .info

def ofEnvironment (env : Environment) : LogSettings :=
  let path := env.text? "TYPTHON_LOG_FILE"
  { level := ((env.text? "TYPTHON_LOG_LEVEL").map levelOf).getD .info
    fileOutput := path.isSome
    path := path
    json := (env.text? "TYPTHON_LOG_JSON").isSome
    spans := (env.text? "TYPTHON_LOG_SPANS").isSome }

def file? (settings : LogSettings) : Option String :=
  if settings.fileOutput then settings.path else none

def filterVariable : String := "RUST_LOG"

def libraryTarget : String := "typthon_threads"

def directive (settings : LogSettings) : String :=
  libraryTarget ++ "=" ++ settings.level.name

end LogSettings

end ArenaThreads
