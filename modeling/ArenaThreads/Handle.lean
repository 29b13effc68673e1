import ArenaThreads.Join
import ArenaThreads.Launch
import ArenaThreads.ThreadMemory
/-!
Thread handles: created, started, stopped and destroyed, over and over. A handle whose thread has
been started and not yet joined is live, and nothing takes a live thread's memory away.
-/

namespace ArenaThreads

structure Handle where
  id : Nat := 0
  function : Option ThreadFunction := none
  argument : Nat := 0
  context : Context := .standard
  memory : Option ThreadMemory := none
  launched : Bool := false
  joined : Bool := false

structure CreateRequest where
  function : ThreadFunction
  argument : Nat
  context : Option Context := none
  sizing : Sizing

namespace Handle

def empty : Handle := {}

def isLive (handle : Handle) : Bool := handle.launched && !handle.joined

/-! Creating -/

def adopt (assignment : Assignment) (sizing : Sizing) (reused : Bool) (memory : ThreadMemory)
    (machine : Machine) : Handle × Machine × Except Error Unit :=
  match memory.prepare assignment machine with
  | (.error error, prepared) =>
    let reported := prepared.emit (.threadFailed "create" error.message)
    let unregistered : ThreadMemory := { memory with registered := false }
    (empty, unregistered.release reported, .error (.outOfMemory error))
  | (.ok ready, prepared) =>
    ({ function := some assignment.function, argument := assignment.argument,
       context := assignment.context, memory := some ready },
      prepared.emit (.threadCreated sizing.stack sizing.storage reused), .ok ())

/-- New memory first; what the handle had before is released only once the new memory is there. -/
def replace (assignment : Assignment) (sizing : Sizing) (answers : MemoryAnswers) (handle : Handle)
    (machine : Machine) : Handle × Machine × Except Error Unit :=
  match ThreadMemory.allocate sizing answers machine with
  | (.error error, asked) =>
    (handle, asked.emit (.threadFailed "create" error.message), .error (.outOfMemory error))
  | (.ok memory, mapped) =>
    let released := match handle.memory with
      | none => mapped
      | some previous => previous.release mapped
    adopt assignment sizing false memory released

def create (request : CreateRequest) (caller : Caller) (answers : MemoryAnswers) (handle : Handle)
    (machine : Machine) : Handle × Machine × Except Error Unit :=
  if handle.isLive then (handle, machine, .error .busy)
  else
    let sizing := request.sizing.rounded machine.page
    let context := request.context.getD (machine.contextAt (machine.current caller))
    let assignment : Assignment := ⟨request.function, request.argument, context⟩
    match handle.memory with
    | some memory =>
      if memory.region.fits sizing then adopt assignment sizing true memory machine
      else replace assignment sizing answers handle machine
    | none => replace assignment sizing answers handle machine

/-! Starting -/

/-- Launches the thread of a control block; the kernel sets the join word before it runs. -/
def launch (answers : LaunchAnswers) (memory : ThreadMemory) (machine : Machine) :
    Launch × Machine :=
  let block := machine.blocks memory.block
  let word := memory.block + ControlBlock.joinWordOffset
  let launch := Launch.run word memory.block block machine.cloneMissing answers
  let noted := if launch.noticed then machine.emit .cloneFallback else machine
  (launch, { noted with
    cloneMissing := launch.missing
    blocks := noted.blocks.set memory.block { block with
      joinWord := launch.answer.toNat
      arguments := Launch.arguments word block } })

def start (answers : LaunchAnswers) (handle : Handle) (machine : Machine) :
    Handle × Machine × Except Failure Unit :=
  match handle.memory with
  | none => (handle, machine, .error (.misuse .startBeforeCreate))
  | some memory =>
    if handle.launched || (machine.blocks memory.block).state ≠ .ready then
      (handle, machine, .error (.misuse .startNotReady))
    else
      let (launch, asked) := launch answers memory machine
      if launch.answer < 0 then
        let error : OsError := ⟨-launch.answer⟩
        (handle, asked.emit (.threadFailed "start" error.message), .error (.error (.spawn error)))
      else
        let id := launch.answer.toNat
        ({ handle with id := id, launched := true }, asked.emit (.threadStarted id), .ok ())

/-! Stopping and releasing -/

/-- What a stop can tell without waiting: nothing while the thread is live. -/
def stopAtOnce? (handle : Handle) : Option (Except Failure Unit) :=
  if !handle.launched then some (.error (.misuse .stopNeverStarted))
  else if handle.joined then some (.ok ())
  else if handle.memory.isNone then some (.error (.misuse .stopDestroyed))
  else none

def stopped (result : Except Error Unit) (handle : Handle) (machine : Machine) : Handle × Machine :=
  match result with
  | .ok () => ({ handle with joined := true }, machine.emit (.threadJoined handle.id))
  | .error .timedOut => (handle, machine)
  | .error error => (handle, machine.emit (.threadFailed "stop" error.message))

def releaseNative (handle : Handle) (machine : Machine) : Machine :=
  match handle.memory with
  | none => machine
  | some memory => memory.release machine

def destroy (handle : Handle) (machine : Machine) : Handle × Machine × Except Error Unit :=
  if handle.isLive then (handle, machine, .error .busy)
  else match handle.memory with
    | none => (empty, machine, .ok ())
    | some memory =>
      (empty, memory.release (machine.emit (.threadDestroyed handle.id)), .ok ())

/-- The end of a handle after a wait for its thread: memory that may still be in use is left alone. -/
def dropped (result : Except Error Unit) (handle : Handle) (machine : Machine) : Machine :=
  match result with
  | .ok () => handle.releaseNative machine
  | .error error => machine.emit (.threadFailed "drop" error.message)

def abandoned (result : Except Error Unit) (handle : Handle) : List ThreadMemory :=
  match result with
  | .ok () => []
  | .error _ => handle.memory.toList

/-! Observing -/

def block? (handle : Handle) (machine : Machine) : Option ControlBlock :=
  handle.memory.map fun memory => machine.blocks memory.block

def state? (handle : Handle) (machine : Machine) : Option ThreadState :=
  (handle.block? machine).map ControlBlock.state

def result (handle : Handle) (machine : Machine) : Nat :=
  if handle.joined then ((handle.block? machine).map ControlBlock.result).getD 0 else 0

def storage? (handle : Handle) (machine : Machine) : Option (Nat × Nat) :=
  (handle.block? machine).map fun block => (block.storage, block.storageSize)

def readableStorage? (handle : Handle) (machine : Machine) : Option (Nat × Nat) :=
  if handle.isLive then none else handle.storage? machine

def threadContext? (handle : Handle) (machine : Machine) : Option Nat :=
  (handle.block? machine).map ControlBlock.context

def startingContext? (handle : Handle) : Option Context := handle.memory.map fun _ => handle.context

def stackSize (handle : Handle) (machine : Machine) : Nat :=
  ((handle.block? machine).map ControlBlock.stackSize).getD 0

end Handle

end ArenaThreads
