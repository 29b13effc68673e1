import ArenaThreads.Log.Backend
import ArenaThreads.Log.Path
/-! Starting the log: the first start decides, a subscriber of the host program stays in place. -/

namespace ArenaThreads

inductive LogOutput
  | console
  | file (location : Location)
  deriving DecidableEq, Repr

def LogOutput.file? : LogOutput → Option Location
  | .console => none
  | .file location => some location

structure Subscriber (φ : Type) where
  filter : φ
  json : Bool
  output : LogOutput
  deriving DecidableEq, Repr

inductive StartRefusal
  | file
  | filter (cut : Text.BrokenCut)
  deriving DecidableEq, Repr

namespace StartRefusal

def message : StartRefusal → String
  | .file => "initializing rolling file appender failed"
  | .filter cut => cut.message

end StartRefusal

structure LogSession (φ : Type) where
  initialized : Bool := false
  host : Bool := false
  subscriber : Option (Subscriber φ) := none
  tree : WorkingTree := {}
  /-- The file that lines are brought to in the background; the first one stays for good. -/
  kept : Option Location := none
  deriving DecidableEq, Repr

def LogBackend.filterFor {φ : Type} (backend : LogBackend φ) (env : Environment)
    (settings : LogSettings) : Except Text.BrokenCut φ :=
  match (env.text? LogSettings.filterVariable).map backend.parse with
  | some (.ok filter) => .ok filter
  | some (.error (.broken cut)) => .error cut
  | some (.error .malformed) | none => .ok (backend.parseLossy settings.directive)

namespace LogSession

variable {φ : Type} (backend : LogBackend φ)

def output (settings : LogSettings) (tree : WorkingTree) : Option (LogOutput × WorkingTree) :=
  match settings.file? with
  | none => some (.console, tree)
  | some path =>
    let directory := Path.directoryText path.toList
    let name := (LogFile.ofText path.toList).name
    (backend.openFile directory name tree).map fun (location, opened) => (.file location, opened)

/-- Starts the log. A start that is refused has not started anything. -/
def start (env : Environment) (settings : LogSettings) (session : LogSession φ) :
    Except StartRefusal (LogSession φ) :=
  if session.initialized then .ok session
  else match backend.filterFor env settings with
    | .error cut => .error (.filter cut)
    | .ok filter =>
      match output backend settings session.tree with
      | none => .error .file
      | some (output, opened) =>
        .ok { session with
          initialized := true
          subscriber := if session.host then none else some ⟨filter, settings.json, output⟩
          tree := opened
          kept := session.kept.or output.file? }

def startAll : List (Environment × LogSettings) → LogSession φ →
    Option StartRefusal × LogSession φ
  | [], session => (none, session)
  | (env, settings) :: rest, session =>
    match session.start backend env settings with
    | .error refusal => (some refusal, session)
    | .ok started => startAll rest started

def written (session : LogSession φ) (events : List Event) : List Event :=
  match session.subscriber with
  | none => []
  | some subscriber => events.filter (backend.admits subscriber.filter)

def toConsole (session : LogSession φ) (events : List Event) : List Event :=
  match session.subscriber with
  | some ⟨_, _, .console⟩ => session.written backend events
  | _ => []

def toFile (session : LogSession φ) (place : FilePlace) (events : List Event) : List Event :=
  match session.subscriber with
  | some ⟨_, _, .file location⟩ =>
    if location = .inside place ∧ session.kept = some location then session.written backend events
    else []
  | _ => []

def received (session : LogSession φ) (events : List Event) : List Event :=
  if session.host then events else session.written backend events

end LogSession

end ArenaThreads
