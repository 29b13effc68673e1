import ArenaThreads.Scenario.Allocation
/-! Steps on threads: their lifecycle, and what can be seen of them. -/

namespace ArenaThreads.Scenario.World

/-! What can be seen -/

def resultView (index : Nat) (world : World) : ResultView :=
  let handle := world.handle index
  let result := handle.result world.machine
  let label (name : String) : ResultView := if result = 0 then .number 0 else .label name
  match world.programs index with
  | some ⟨_, .slot _⟩ => label ((world.blockLabel handle result).getD "unknown")
  | some ⟨_, .context⟩ => label (world.contextLabelOn handle result)
  | _ => .number result

def threadView (index : Nat) (world : World) : ThreadView :=
  let handle := world.handle index
  let machine := world.machine
  let state := handle.state? machine
  let label := handle.function.map ThreadFunction.label
  { state := state.map ThreadState.name
    isReady := state = some .ready
    isRunning := state = some .running
    isStopped := state = some .stopped
    id := handle.id
    function := label
    argument := if label = some "program" then none else some handle.argument
    result := world.resultView index
    stack := handle.stackSize machine
    storage := (handle.storage? machine).map Prod.snd
    readable := (handle.readableStorage? machine).map Prod.snd
    ownOffset := (handle.block? machine).map fun block => block.context - block.storage
    starting := handle.startingContext?.map fun context => world.allocatorLabel context.allocator }

def debugText (handle : Handle) (machine : Machine) : String :=
  let state := match handle.state? machine with
    | none => "None"
    | some state => "Some(" ++ state.name ++ ")"
  "Thread \x7b id: " ++ (if handle.id = 0 then "0" else "TID") ++ ", state: " ++ state ++
    ", launched: " ++ toString handle.launched ++ ", joined: " ++ toString handle.joined ++ " \x7d"

def record (handle : Handle) (world : World) : Note → Record
  | .block none => .block none
  | .block (some address) => .block (world.blockLabel handle address)
  | .context context => .context (world.contextLabelOn handle context)
  | .flag flag => .flag flag

def records (index : Nat) (world : World) : List Record :=
  match world.programs index with
  | none => []
  | some program => (world.machine.shared.notes program.key).map (world.record (world.handle index))

def storageBytes (index offset length : Nat) (world : World) : Content :=
  match (world.handle index).readableStorage? world.machine with
  | none => .bytes none
  | some (start, size) =>
    if offset < Context.size ∨ size < offset + length then .rejected
    else .bytes (some (world.machine.memory.read (start + offset) length))

/-! Programs -/

def contextChoice? (name : String) (world : World) : Option ContextChoice :=
  if name = "own" then some .own else (world.contextNamed? name).map .context

def instruction? (step : InstructionStep) (world : World) : Option Instruction × World :=
  match step with
  | .alloc slot size => (some (.alloc slot size), world)
  | .free slot => (some (.free slot), world)
  | .realloc slot size => (some (.realloc slot size), world)
  | .fill slot byte => (some (.fill slot (UInt8.ofNat byte)), world)
  | .current => (some .current, world)
  | .set context => ((world.contextChoice? context).map .set, world)
  | .push guard context => ((world.contextChoice? context).map (.push guard), world)
  | .pop guard => (some (.pop guard), world)
  | .gate gate =>
    let (index, named) := world.gateIndex gate
    (some (.gate index), named)
  | .add word amount =>
    let (index, named) := world.wordIndex word
    (some (.add index (UInt32.ofNat amount)), named)

def instructions? : List InstructionStep → World → Option (List Instruction) × World
  | [], world => (some [], world)
  | step :: rest, world =>
    let (first, named) := world.instruction? step
    let (others, named) := instructions? rest named
    (first.bind fun instruction => others.map (instruction :: ·), named)

def programResult : ResultStep → ProgramResult
  | .word word => .word word
  | .slot slot => .slot slot
  | .context => .context

/-- A launched thread cannot use the heap, so no context with it may become current there. -/
def runsWithoutHeap (program : Program) (world : World) : Bool :=
  program.contexts.all fun address => (world.contextAllocator address).kind = .arena

structure Chosen where
  function : ThreadFunction
  argument : Nat
  program : Option CreatedProgram := none

def chooseFunction? (create : CreateStep) (world : World) : Option Chosen × World :=
  match create.function with
  | .identity => (some { function := .identity, argument := create.argument }, world)
  | .invert => (some { function := .invert, argument := create.argument }, world)
  | .sum => (some { function := .sum, argument := create.argument }, world)
  | .exhaust => (some { function := .exhaust, argument := create.argument }, world)
  | .program code result =>
    let (code, named) := world.instructions? code
    match code with
    | none => (none, named)
    | some code =>
      let program : Program := ⟨code, programResult result⟩
      if named.runsWithoutHeap program then
        let (key, placed) := named.place 16 0
        (some ⟨.program program, key, some ⟨key, program.result⟩⟩, placed)
      else (none, named)

/-! Lifecycle -/

def contentOf : CallResult → Content
  | .returned => .ok
  | .failed failure => .failure failure
  | .waits => .rejected

def call (index : Nat) (call : Call) (world : World) : CallResult × World :=
  let (system, result) := world.system.call index call
  (result, { world with system := system })

def createThread (index : Nat) (create : CreateStep) (world : World) : Content × World :=
  let context := match create.context with
    | none => some none
    | some name => (world.contextNamed? name).map some
  match context, world.chooseFunction? create with
  | some context, (some chosen, world) =>
    let standard : Sizing := {}
    let request : CreateRequest :=
      { function := chosen.function
        argument := chosen.argument
        context := context.map world.machine.contextAt
        sizing := ⟨create.stack.getD standard.stack, create.storage.getD standard.storage⟩ }
    let answers := world.memoryAnswers create.denial
    let (result, called) := world.call index (.create request world.caller answers)
    let advanced := called.advance 0
    match result with
    | .returned =>
      (.ok, { advanced with
        programs := advanced.programs.set index chosen.program
        visited := advanced.visited.set index false })
    | _ => (contentOf result, advanced)
  | _, (_, named) => (.rejected, named)

def startThread (index : Nat) (denial : Denial) (world : World) : Content × World :=
  let (result, called) := world.call index (.start world.caller (world.launchAnswers denial))
  (contentOf result, called.advance 0)

def destroyThread (index : Nat) (world : World) : Content × World :=
  let (result, called) := world.call index .destroy
  match result with
  | .returned => (.ok, { called with programs := called.programs.set index none })
  | _ => (contentOf result, called)

def waitsAtGate (index : Nat) (world : World) : Bool :=
  (world.handle index).memory.any fun memory =>
    world.system.threads.any fun thread => thread.block = memory.block

/-- A wait that nothing would end is not begun, nor one of over a second. -/
def wouldHang (timeout : Option Duration) (plan : WaitPlan) : Bool :=
  let ended := plan.opening.isSome || plan.expires ||
    plan.denial.futex.any fun code =>
      (⟨code⟩ : OsError) ≠ .wouldBlock && (⟨code⟩ : OsError) ≠ .interrupted
  !ended && timeout.all fun span => 1000000000 < span.nanos

def openNamed (gate : String) (world : World) : World :=
  let (index, named) := world.gateIndex gate
  (named.openGate index).settle

def openAll (world : World) : World :=
  ((List.range world.gates.length).foldl (fun world index => world.openGate index) world).settle

def openDue (plan : WaitPlan) (now : Instant) (world : World) : World :=
  match plan.opening with
  | none => world
  | some opening => if opening.delay.nanos ≤ now.nanos then world.openNamed opening.gate else world

def joinMove (index : Nat) (now : Instant) (refusal : Option OsError) (world : World) :
    CallResult × World :=
  let (system, result) := world.system.joinStep index now refusal
  (result, { world with system := system })

def rouse (index : Nat) (outcome : Except OsError Unit) (world : World) : World :=
  { world with system := world.system.rouse index outcome }

/-- The sleep of the waiting call: the planned gate opens if its time comes first, and a call that
still sleeps after that is left to time out. -/
def sleep (index : Nat) (plan : WaitPlan) (now : Instant) (left : Option Duration) (world : World) :
    Instant × World :=
  let opens := plan.opening.filter fun opening => left.all fun span =>
    opening.delay.nanos < now.nanos + span.nanos
  let (now, opened) := match opens with
    | none => (now, world)
    | some opening => (⟨max now.nanos opening.delay.nanos⟩, world.openNamed opening.gate)
  match left, opened.system.sleepsOn index with
  | some span, some _ => (⟨now.nanos + span.nanos⟩, opened.rouse index (.error .timedOut))
  | _, _ => (now, opened)

def clockStep : Nat := 100

def await (index : Nat) (plan : WaitPlan) : Nat → Instant → World → CallResult × World
  | 0, _, world => (.waits, world)
  | limit + 1, now, world =>
    match world.system.joining index with
    | none => (.returned, world)
    | some joining =>
      match joining.join.phase with
      | .finished _ => world.joinMove index now none
      | .wait _ left =>
        if plan.expires then
          await index plan limit now (world.openAll.joinMove index now (some .timedOut)).2
        else match plan.denial.futex with
          | some code =>
            let later : Instant := ⟨now.nanos + 1000000⟩
            await index plan limit later
              ((world.joinMove index now (some ⟨code⟩)).2.openDue plan later)
          | none =>
            let (later, slept) := (world.joinMove index now none).2.sleep index plan now left
            await index plan limit later slept
      | .clock _ =>
        let later : Instant := ⟨now.nanos + clockStep⟩
        await index plan limit later (world.joinMove index later none).2
      | _ => await index plan limit now (world.joinMove index now none).2

def awaitLimit (plan : WaitPlan) : Nat :=
  10000 + 10 * ((plan.opening.map fun opening => opening.delay.nanos / 1000000).getD 0)

def waiting (index : Nat) (request : Call) (timeout : Option Duration) (plan : WaitPlan)
    (world : World) : CallResult × World :=
  if world.waitsAtGate index && wouldHang timeout plan then (.waits, world)
  else
    let (result, called) := world.call index request
    let (result, ended) := match result with
      | .waits => await index plan (awaitLimit plan) ⟨0⟩ called
      | _ => (result, called)
    let opened := match plan.opening with
      | none => ended
      | some opening => ended.openNamed opening.gate
    (result, opened)

def stopThread (index : Nat) (timeout : Option Duration) (plan : WaitPlan) (world : World) :
    Content × World :=
  let (result, ended) := world.waiting index (.stop timeout ⟨0⟩) timeout plan
  (contentOf result, ended)

def dropThread (index : Nat) (plan : WaitPlan) (world : World) : Content × World :=
  let (result, ended) := world.waiting index .drop none plan
  match result with
  | .returned => (.ok, { ended with programs := ended.programs.set index none })
  | _ => (contentOf result, ended)

def threadStep (name : String) (request : ThreadRequest) (world : World) :
    Content × Option ThreadView × World :=
  let (index, named) := world.threadIndex name
  let settled := named.settle
  let (content, changed) : Content × World := match request with
    | .look => (.ok, settled)
    | .create step => settled.createThread index step
    | .start denial => settled.startThread index denial
    | .stop timeout plan => settled.stopThread index timeout plan
    | .destroy => settled.destroyThread index
    | .drop plan => settled.dropThread index plan
  let after := changed.settle
  (content, some (after.threadView index), after)

/-- Whether an ordinary thread may run on the stack of a thread: one that is created, not started, not
visited before, and with room. -/
def mayVisit (index : Nat) (world : World) : Bool :=
  let handle := world.handle index
  !world.onStack && handle.state? world.machine = some .ready && !handle.launched &&
    !world.visited index && 262144 ≤ handle.stackSize world.machine

def visitor (index : Nat) (world : World) : Caller × World :=
  let (caller, placed) := world.placeCaller
  let stack := (((world.handle index).block? world.machine).map ControlBlock.stackLow).getD 0
  (⟨stack + 4096, caller.home⟩, { placed with
    visited := placed.visited.set index true
    onStack := true })

end ArenaThreads.Scenario.World
