import ArenaThreads.Handle
import ArenaThreads.RuntimeThread
/-!
A process: its handles, the threads they have launched, and the calls that wait for a thread, one on a
handle at most, because a call borrows its handle until it returns. Calls, the steps of each thread, the
steps of each wait and what the kernel does to a sleeper are separate moves, so a list of moves is an
interleaving. A thread is listed until the kernel has cleared its join word; the wake that follows comes
at any later time.
-/

namespace ArenaThreads

inductive JoinPurpose
  | stop
  | drop
  deriving DecidableEq, Repr

structure Joining where
  purpose : JoinPurpose
  join : Join
  asleep : Bool := false
  deriving DecidableEq

def Joining.roused (outcome : Except OsError Unit) (joining : Joining) : Joining :=
  if joining.asleep then { joining with join := joining.join.answer outcome, asleep := false }
  else joining

structure System where
  machine : Machine := {}
  handles : Cells Nat Handle := fun _ => .empty
  threads : List RuntimeThread := []
  /-- Control blocks whose join word is cleared and whose sleepers are still to be woken. -/
  wakes : List Nat := []
  joining : Cells Nat (Option Joining) := fun _ => none
  abandoned : List ThreadMemory := []

inductive CallResult
  | returned
  | failed (failure : Failure)
  | waits
  deriving DecidableEq

inductive Call
  | create (request : CreateRequest) (caller : Caller) (answers : MemoryAnswers)
  | start (caller : Caller) (answers : LaunchAnswers)
  | stop (timeout : Option Duration) (now : Instant)
  | destroy
  | drop

/-- A call on a handle; a step of the thread at a control block; the wake that its cleared word asks
for; a step of the call that waits on a handle, which the kernel may refuse to let sleep; the end of
that call's sleep, for whatever reason. -/
inductive Move
  | call (handle : Nat) (call : Call)
  | thread (block : Nat) (answers : HeapAnswers)
  | wake (block : Nat)
  | join (handle : Nat) (now : Instant) (refusal : Option OsError)
  | rouse (handle : Nat) (outcome : Except OsError Unit)

namespace System

def resultOf : Except Error Unit → CallResult
  | .ok () => .returned
  | .error error => .failed (.error error)

def withHandle (name : Nat) (handle : Handle) (machine : Machine) (system : System) : System :=
  { system with handles := system.handles.set name handle, machine := machine }

def withJoining (name : Nat) (joining : Option Joining) (system : System) : System :=
  { system with joining := system.joining.set name joining }

/-! Calls -/

def create (name : Nat) (request : CreateRequest) (caller : Caller) (answers : MemoryAnswers)
    (system : System) : System × CallResult :=
  let (handle, machine, result) :=
    (system.handles name).create request caller answers system.machine
  (system.withHandle name handle machine, resultOf result)

def start (name : Nat) (caller : Caller) (answers : LaunchAnswers) (system : System) :
    System × CallResult :=
  let (handle, machine, result) := (system.handles name).start answers system.machine
  let changed := system.withHandle name handle machine
  match result with
  | .error failure => (changed, .failed failure)
  | .ok () =>
    let threads := handle.memory.toList.map fun memory =>
      RuntimeThread.launched memory.region caller.home
    ({ changed with threads := changed.threads ++ threads }, .returned)

def destroy (name : Nat) (system : System) : System × CallResult :=
  let (handle, machine, result) := (system.handles name).destroy system.machine
  (system.withHandle name handle machine, resultOf result)

def stop (name : Nat) (timeout : Option Duration) (now : Instant) (system : System) :
    System × CallResult :=
  match (system.handles name).stopAtOnce? with
  | some (.error failure) => (system, .failed failure)
  | some (.ok ()) => (system, .returned)
  | none => (system.withJoining name (some ⟨.stop, Join.start timeout now, false⟩), .waits)

/-- Drops a handle and puts an empty one in its place; a live thread is waited for first. -/
def drop (name : Nat) (system : System) : System × CallResult :=
  let handle := system.handles name
  if handle.isLive then
    (system.withJoining name (some ⟨.drop, Join.start none ⟨0⟩, false⟩), .waits)
  else (system.withHandle name .empty (handle.releaseNative system.machine), .returned)

def call (name : Nat) (call : Call) (system : System) : System × CallResult :=
  match call with
  | .create request caller answers => system.create name request caller answers
  | .start caller answers => system.start name caller answers
  | .stop timeout now => system.stop name timeout now
  | .destroy => system.destroy name
  | .drop => system.drop name

/-! Waiting -/

def joinWord (name : Nat) (system : System) : Nat :=
  (((system.handles name).block? system.machine).map ControlBlock.joinWord).getD 0

def finish (name : Nat) (purpose : JoinPurpose) (result : Except Error Unit) (system : System) :
    System × CallResult :=
  let handle := system.handles name
  let idle := system.withJoining name none
  match purpose with
  | .stop =>
    let (handle, machine) := handle.stopped result system.machine
    (idle.withHandle name handle machine, resultOf result)
  | .drop =>
    let dropped := idle.withHandle name .empty (handle.dropped result system.machine)
    ({ dropped with abandoned := dropped.abandoned ++ handle.abandoned result }, .returned)

def withJoin (name : Nat) (joining : Joining) (join : Join) (system : System) : System :=
  system.withJoining name (some { joining with join := join, asleep := false })

/-- One step of the call that waits on a handle. The kernel lets it sleep only while the word is still
the one it has read. -/
def joinStep (name : Nat) (now : Instant) (refusal : Option OsError) (system : System) :
    System × CallResult :=
  match system.joining name with
  | none => (system, .waits)
  | some joining =>
    if joining.asleep then (system, .waits)
    else match joining.join.phase with
      | .load | .recheck =>
        (system.withJoin name joining (joining.join.load (system.joinWord name)), .waits)
      | .clock _ => (system.withJoin name joining (joining.join.tick now), .waits)
      | .wait seen _ =>
        match refusal with
        | some error => (system.withJoin name joining (joining.join.answer (.error error)), .waits)
        | none =>
          if system.joinWord name = seen then
            (system.withJoining name (some { joining with asleep := true }), .waits)
          else (system.withJoin name joining (joining.join.answer (.error .wouldBlock)), .waits)
      | .finished result => system.finish name joining.purpose result

def rouse (name : Nat) (outcome : Except OsError Unit) (system : System) : System :=
  system.withJoining name ((system.joining name).map (Joining.roused outcome))

def sleepsOn (name : Nat) (system : System) : Option Nat :=
  match system.joining name with
  | some joining =>
    if joining.asleep then (system.handles name).memory.map ThreadMemory.block else none
  | none => none

/-! Threads -/

def threadAt? (block : Nat) (system : System) : Option RuntimeThread :=
  system.threads.find? fun thread => thread.block = block

def withStage (block : Nat) (stage : Option Stage) (system : System) : System :=
  match stage with
  | some stage =>
    { system with
      threads := system.threads.map fun thread =>
        if thread.block = block then { thread with stage := stage } else thread }
  | none =>
    { system with
      threads := system.threads.filter fun thread => thread.block ≠ block
      wakes := system.wakes ++ [block] }

def threadStep? (block : Nat) (answers : HeapAnswers) (system : System) : Option System :=
  (system.threadAt? block).bind fun thread =>
    (thread.step answers system.machine).map fun (stage, machine) =>
      { system with machine := machine }.withStage block stage

def threadStep (block : Nat) (answers : HeapAnswers) (system : System) : System :=
  (system.threadStep? block answers).getD system

def wake (block : Nat) (system : System) : System :=
  if block ∈ system.wakes then
    { system with
      wakes := system.wakes.erase block
      joining := fun name =>
        if system.sleepsOn name = some block then
          (system.joining name).map (Joining.roused (.ok ()))
        else system.joining name }
  else system

/-- One move; no call is made on a handle on which one waits. -/
def step (move : Move) (system : System) : System × CallResult :=
  match move with
  | .call name call =>
    if (system.joining name).isSome then (system, .waits) else system.call name call
  | .thread block answers => (system.threadStep block answers, .waits)
  | .wake block => (system.wake block, .waits)
  | .join name now refusal => system.joinStep name now refusal
  | .rouse name outcome => (system.rouse name outcome, .waits)

def run (moves : List Move) (system : System) : System :=
  moves.foldl (fun system move => (system.step move).1) system

end System

end ArenaThreads
