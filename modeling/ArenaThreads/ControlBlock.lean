import ArenaThreads.Routine
/-! The control block of a thread, kept at the top of its own stack. -/

namespace ArenaThreads

inductive ThreadState
  | ready
  | running
  | stopped
  deriving DecidableEq, Repr

namespace ThreadState

def name : ThreadState → String
  | ready => "Ready"
  | running => "Running"
  | stopped => "Stopped"

def rank : ThreadState → Nat
  | ready => 0
  | running => 1
  | stopped => 2

end ThreadState

structure CloneArguments where
  flags : Nat := 0
  pidFile : Nat := 0
  childWord : Nat := 0
  parentWord : Nat := 0
  exitSignal : Nat := 0
  stack : Nat := 0
  stackSize : Nat := 0
  threadLocal : Nat := 0
  deriving DecidableEq, Repr, Inhabited

structure ControlBlock where
  function : ThreadFunction
  argument : Nat
  result : Nat := 0
  stackSize : Nat
  storage : Nat
  storageSize : Nat
  /-- The thread's id while it exists, zero before it is launched and after it is gone. -/
  joinWord : Nat := 0
  state : ThreadState := .ready
  context : Nat := 0
  current : Nat := 0
  stackLow : Nat
  stackHigh : Nat
  next : Nat := 0
  arguments : CloneArguments := {}
  deriving Inhabited

namespace ControlBlock

def size : Nat := 256

def alignment : Nat := 64

def joinWordOffset : Nat := 56

def holds (address : Nat) (block : ControlBlock) : Bool :=
  block.stackLow ≤ address && address < block.stackHigh

end ControlBlock

abbrev ControlBlocks := Cells Nat ControlBlock

end ArenaThreads
