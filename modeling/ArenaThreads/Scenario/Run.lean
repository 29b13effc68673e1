import ArenaThreads.Scenario.Contexts
import ArenaThreads.Scenario.Threads
import ArenaThreads.Scenario.Words
/-! Running a scenario: every step in order in one world, each with its answer and the events it emits. -/

namespace ArenaThreads.Scenario.World

def answer (result : Content × World) : Answer × World :=
  let (log, world) := result.2.takeLog
  (.single result.1 none log, world)

def observe (content : Content) (world : World) : Answer × World := answer (content, world)

/-- Steps that concern threads are not made from a stack that one of them will run on. -/
def unlessOnStack (world : World) (result : Unit → Answer × World) : Answer × World :=
  if world.onStack then world.observe .rejected else result ()

def threadAnswer (name : String) (request : ThreadRequest) (world : World) : Answer × World :=
  world.unlessOnStack fun _ =>
    let (content, view, after) := world.threadStep name request
    let (log, after) := after.takeLog
    (.single content view log, after)

def threadObservation (name : String) (look : Nat → World → Content) (world : World) :
    Answer × World :=
  world.unlessOnStack fun _ =>
    let (index, named) := world.threadIndex name
    let settled := named.settle
    settled.observe (look index settled)

mutual

def runStep (step : Step) (world : World) : Answer × World :=
  match step with
  | .reserve arena size denial => answer (world.reserve arena size denial)
  | .borrow arena length skew => answer (world.borrow arena length skew)
  | .empty arena => answer (world.setArena arena .empty)
  | .dropArena arena =>
    if (world.arenas.lookup arena).isSome then answer (world.setArena arena .empty)
    else world.observe .rejected
  | .info arena => answer (world.onArena arena fun _ world => world)
  | .reset arena => answer (world.onArena arena resetArena)
  | .release arena => answer (world.onArena arena releaseArena)
  | .memory step => answer (world.memoryStep step)
  | .fill allocator block length byte increment =>
    answer (world.fill allocator block length byte increment)
  | .read allocator block length => world.observe (world.read allocator block length)
  | .context name allocator => answer (world.defineContext name allocator)
  | .current => world.observe (.now world.now)
  | .set context => answer (world.setContext context)
  | .push context guardName => answer (world.pushContext context guardName)
  | .pop guardName => answer (world.popContext guardName)
  | .same first second => world.observe (world.sameAllocator first second)
  | .format allocator => world.observe (world.formatContext allocator)
  | .hammer threads rounds => world.observe (world.hammer threads rounds)
  | .thread name request => world.threadAnswer name request
  | .storage thread offset length =>
    world.threadObservation thread fun index world => world.storageBytes index offset length
  | .debug thread =>
    world.threadObservation thread fun index world =>
      .text (debugText (world.handle index) world.machine)
  | .records thread =>
    world.threadObservation thread fun index world => .records (world.records index)
  | .openGate gate => (world.openNamed gate).observe .ok
  | .word name => world.observe (.value (world.wordValue name))
  | .setWord name value => answer (world.setWord name value)
  | .futexWait word expected timeout wake denial =>
    world.observe (world.futexWait word expected timeout wake denial)
  | .futexWake _ count => world.observe (.woken (Futex.woken count 0))
  | .futexWaiters _ sleepers count => world.observe (futexWaiters sleepers count)
  | .onThread steps =>
    let (caller, placed) := world.placeCaller
    let (answers, after) := runSteps steps (placed.enterThread caller)
    let (ending, left) := after.leaveThread
    (.several answers ending, left)
  | .onStack thread steps =>
    let (index, named) := world.threadIndex thread
    let settled := named.settle
    if settled.mayVisit index then
      let (caller, placed) := settled.visitor index
      let (answers, after) := runSteps steps (placed.enterThread caller)
      let (ending, left) := after.leaveThread
      (.several answers ending, { left with onStack := false })
    else settled.observe .rejected
  | .unknown name => world.observe (.unknownStep name)

def runSteps (steps : List Step) (world : World) : List Answer × World :=
  match steps with
  | [] => ([], world)
  | step :: rest =>
    let (first, changed) := runStep step world
    let (others, after) := runSteps rest changed
    (first :: others, after)

end

end ArenaThreads.Scenario.World

namespace ArenaThreads.Scenario

def run (page : Nat) (steps : List Step) : List Answer :=
  ((World.start page).runSteps steps).1

end ArenaThreads.Scenario
