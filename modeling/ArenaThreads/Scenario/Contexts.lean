import ArenaThreads.Scenario.Allocation
/-! Steps on contexts: defining them, making them current, and guarding what was current. -/

namespace ArenaThreads.Scenario.World

def defineContext (name allocator : String) (world : World) : Content × World :=
  match world.target? allocator with
  | none => (.rejected, world)
  | some target =>
    let (address, placed) := world.placeContext ⟨target.allocator⟩
    (.ok, { placed with contexts := assign name address placed.contexts })

def setContext (name : String) (world : World) : Content × World :=
  match world.contextNamed? name with
  | none => (.rejected, world)
  | some address =>
    let (previous, machine) := world.machine.setCurrent world.caller address
    let changed := world.withMachine machine
    (.changed changed.now (some (changed.contextLabel previous)), changed)

def pushContext (name guardName : String) (world : World) : Content × World :=
  match world.contextNamed? name with
  | none => (.rejected, world)
  | some address =>
    let (guarded, machine) := ContextGuard.enter world.caller address world.machine
    let frame := { world.frame with guards := (guardName, guarded) :: world.frame.guards }
    let changed := { world.withMachine machine with frame := frame }
    (.changed changed.now none, changed)

def popContext (guardName : String) (world : World) : Content × World :=
  match world.frame.guards.lookup guardName with
  | none => (.rejected, world)
  | some guarded =>
    let guards := world.frame.guards.eraseP fun entry => entry.1 = guardName
    let machine := guarded.leave world.caller world.machine
    let changed := { world.withMachine machine with frame := { world.frame with guards := guards } }
    (.now changed.now, changed)

def sameAllocator (first second : String) (world : World) : Content :=
  match world.target? first, world.target? second with
  | some one, some other =>
    .same (one.allocator.sameAs other.allocator) (world.allocatorLabel one.allocator)
      (world.allocatorLabel other.allocator)
  | _, _ => .rejected

def formatContext (allocator : String) (world : World) : Content :=
  match world.target? allocator with
  | none => .rejected
  | some target => .text (Context.debug ⟨target.allocator⟩)

/-! Threads that only change their current context -/

/-- Rounds of making the default context and a context of the caller's own current in turn; counts the
changes that answered with the context before and left the new one current. -/
def countGood (caller : Caller) (own : Nat) : Nat → Bool → Nat → Nat → Machine → Nat
  | 0, _, _, good, _ => good
  | rounds + 1, ownTurn, before, good, machine =>
    let next := if ownTurn then own else caller.home
    let (previous, changed) := machine.setCurrent caller next
    let right := previous = before ∧ changed.current caller = next
    countGood caller own rounds (!ownTurn) next (if right then good + 1 else good) changed

def hammer (threads rounds : Nat) (world : World) : Content :=
  let (caller, placed) := world.placeCaller
  let (own, placed) := placed.placeContext .standard
  .good (threads * countGood caller own rounds false caller.home 0 placed.machine)

def leaveThread (world : World) : Now × World :=
  let machine := world.frame.guards.foldl
    (fun machine entry => entry.2.leave world.caller machine) world.machine
  let left := world.withMachine machine
  match left.outer with
  | [] => (left.now, left)
  | frame :: outer => (left.now, { left with frame := frame, outer := outer })

def enterThread (caller : Caller) (world : World) : World :=
  { world with frame := ⟨caller, []⟩, outer := world.frame :: world.outer }

end ArenaThreads.Scenario.World
