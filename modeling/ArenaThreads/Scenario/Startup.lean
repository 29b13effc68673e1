import ArenaThreads.Scenario.World
/-! A process that reads its sizes from the environment and creates one thread with them. -/

namespace ArenaThreads.Scenario

structure Startup where
  sizing : Sizing
  log : List Event
  stable : Bool
  created : Except Error (Nat × Nat)
  createLog : List Event

def startup (page : Nat) (env : Environment) : Startup :=
  let (sizing, log, cache) := SizingCache.read env {}
  let (again, _, _) := SizingCache.read Environment.unset cache
  let world := World.start page
  let request : CreateRequest := { function := .identity, argument := 0, sizing := sizing }
  let (handle, machine, result) :=
    Handle.create request world.caller (world.memoryAnswers {}) .empty world.machine
  { sizing := sizing
    log := log
    stable := again = sizing
    created := result.map fun _ =>
      (handle.stackSize machine, ((handle.storage? machine).map Prod.snd).getD 0)
    createLog := machine.log }

end ArenaThreads.Scenario
