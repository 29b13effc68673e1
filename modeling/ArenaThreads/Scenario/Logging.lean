import ArenaThreads.Log.Line
import ArenaThreads.Log.Session
import ArenaThreads.Log.Standard
import ArenaThreads.Scenario.World
/-! A process that starts its log in an otherwise empty directory and then reports events to it. -/

namespace ArenaThreads.Scenario

inductive Report
  | thread (event : Event)
  | arena (size : Nat)
  deriving DecidableEq, Repr

namespace Report

def events (page : Nat) : Report → List Event
  | thread event => [event]
  | arena size =>
    let world := World.start page
    let length := Pages.round page (max size 1)
    (world.machine.reserveArena size ((world.memoryAnswers {}).map length)).2.log

end Report

structure LogOutcome where
  before : Bool
  after : Bool
  refusal : Option StartRefusal
  received : List Event
  host : Option (List Event)
  json : Bool
  console : List Event
  files : List (String × List Event)

def placeText (place : FilePlace) : String :=
  String.intercalate "/" (place.map String.ofList)

/-- Starts the log with each of the settings in turn, then reports; nothing is reported after a start
that fails. -/
def logging (page : Nat) (env : Environment) (host : Bool) (tree : WorkingTree)
    (settings : List LogSettings) (reports : List Report) : LogOutcome :=
  let backend := LogBackend.standard
  let session : LogSession LogFilter := { host := host, tree := tree }
  let (refusal, started) := session.startAll backend (settings.map fun each => (env, each))
  let events := if refusal.isSome then [] else reports.flatMap (Report.events page)
  { before := session.initialized
    after := started.initialized
    refusal := refusal
    received := started.received backend events
    host := if host then some events else none
    json := started.subscriber.any Subscriber.json
    console := started.toConsole backend events
    files := started.tree.files.map fun place => (placeText place, started.toFile backend place events) }

end ArenaThreads.Scenario
