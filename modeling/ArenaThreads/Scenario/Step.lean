import ArenaThreads.Time
/-!
The steps of a scenario: requests to one process in which arenas, blocks, contexts, guards, threads,
words and gates go by names.
-/

namespace ArenaThreads.Scenario

structure Denial where
  map : Option Int := none
  protect : Option Int := none
  clone3 : Option Int := none
  clone : Option Int := none
  futex : Option Int := none
  deriving DecidableEq, Repr

inductive BlockRef
  | null
  | named (name : String)
  | offset (offset : Int)
  deriving DecidableEq, Repr

inductive MemoryRequest
  | alloc (size : Nat)
  | free
  | realloc (size : Nat)
  | resize (size : Nat)
  deriving DecidableEq, Repr

structure MemoryStep where
  allocator : String
  request : MemoryRequest
  block : BlockRef := .null
  oldSize : Option Nat := none
  target : Option String := none
  viaAllocator : Bool := false
  deriving DecidableEq, Repr

inductive InstructionStep
  | alloc (slot size : Nat)
  | free (slot : Nat)
  | realloc (slot size : Nat)
  | fill (slot byte : Nat)
  | current
  | set (context : String)
  | push (guard : Nat) (context : String)
  | pop (guard : Nat)
  | gate (gate : String)
  | add (word : String) (amount : Nat)
  deriving DecidableEq, Repr

inductive ResultStep
  | word (word : Nat)
  | slot (slot : Nat)
  | context
  deriving DecidableEq, Repr

inductive FunctionStep
  | identity
  | invert
  | sum
  | exhaust
  | program (code : List InstructionStep) (result : ResultStep)
  deriving DecidableEq, Repr

structure CreateStep where
  thread : String
  function : FunctionStep
  argument : Nat := 0
  stack : Option Nat := none
  storage : Option Nat := none
  context : Option String := none
  denial : Denial := {}
  deriving DecidableEq, Repr

structure Opening where
  gate : String
  delay : Duration
  deriving DecidableEq, Repr

structure WaitPlan where
  opening : Option Opening := none
  /-- Whether the thread runs to its end while the call sleeps, which then times out. -/
  expires : Bool := false
  denial : Denial := {}
  deriving DecidableEq, Repr

inductive ThreadRequest
  | look
  | create (create : CreateStep)
  | start (denial : Denial)
  | stop (timeout : Option Duration) (plan : WaitPlan)
  | destroy
  | drop (plan : WaitPlan)
  deriving DecidableEq, Repr

inductive Step
  | reserve (arena : String) (size : Nat) (denial : Denial)
  | borrow (arena : String) (length skew : Nat)
  | empty (arena : String)
  | dropArena (arena : String)
  | info (arena : String)
  | reset (arena : String)
  | release (arena : String)
  | memory (step : MemoryStep)
  | fill (allocator : String) (block : BlockRef) (length : Option Nat) (byte increment : Int)
  | read (allocator : String) (block : BlockRef) (length : Option Nat)
  | context (name allocator : String)
  | current
  | set (context : String)
  | push (context guard : String)
  | pop (guard : String)
  | same (first second : String)
  | format (allocator : String)
  | hammer (threads rounds : Nat)
  | thread (name : String) (request : ThreadRequest)
  | storage (thread : String) (offset length : Nat)
  | debug (thread : String)
  | records (thread : String)
  | openGate (gate : String)
  | word (name : String)
  | setWord (name : String) (value : Nat)
  | futexWait (word : String) (expected : Nat) (timeout : Option Duration) (wake : Bool)
      (denial : Denial)
  | futexWake (word : String) (count : Option Nat)
  | futexWaiters (word : String) (sleepers : Nat) (count : Option Nat)
  | onThread (steps : List Step)
  | onStack (thread : String) (steps : List Step)
  | unknown (name : String)
  deriving Inhabited

end ArenaThreads.Scenario
