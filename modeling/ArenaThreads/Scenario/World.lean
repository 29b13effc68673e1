import ArenaThreads.Program
import ArenaThreads.Scenario.Answer
import ArenaThreads.Scenario.Step
import ArenaThreads.System
/-!
The world of a scenario: a process, the things in it that have names, and the running threads of the
scenario itself, one inside another. Its kernel gives out addresses that have never been used.
-/

namespace ArenaThreads.Scenario

structure Frame where
  caller : Caller
  guards : List (String × ContextGuard) := []

structure NamedBlock where
  address : Nat
  size : Nat
  label : String
  deriving DecidableEq, Repr

structure CreatedProgram where
  key : Nat
  result : ProgramResult
  deriving DecidableEq, Repr

structure World where
  system : System := {}
  frame : Frame
  outer : List Frame := []
  arenas : List (String × Nat) := []
  blocks : List (String × NamedBlock) := []
  contexts : List (String × Nat) := []
  threads : List String := []
  words : List String := []
  gates : List String := []
  programs : Cells Nat (Option CreatedProgram) := fun _ => none
  visited : Cells Nat Bool := fun _ => false
  onStack : Bool := false
  nextPlace : Nat := 0x10_0000
  nextMapping : Nat := 0x1_0000_0000
  nextHeap : Nat := 0x2000_0000_0000
  nextThreadId : Nat := 1000

def indexOf (name : String) (names : List String) : Nat × List String :=
  match names.findIdx? (· = name) with
  | some index => (index, names)
  | none => (names.length, names ++ [name])

def assign {α : Type} (name : String) (value : α) (entries : List (String × α)) :
    List (String × α) :=
  (name, value) :: entries.filter fun entry => entry.1 ≠ name

namespace World

def machine (world : World) : Machine := world.system.machine

def withMachine (machine : Machine) (world : World) : World :=
  { world with system := { world.system with machine := machine } }

def caller (world : World) : Caller := world.frame.caller

/-! Names -/

def threadIndex (name : String) (world : World) : Nat × World :=
  let (index, names) := indexOf name world.threads
  (index, { world with threads := names })

def wordIndex (name : String) (world : World) : Nat × World :=
  let (index, names) := indexOf name world.words
  (index, { world with words := names })

def gateIndex (name : String) (world : World) : Nat × World :=
  let (index, names) := indexOf name world.gates
  (index, { world with gates := names })

def handle (index : Nat) (world : World) : Handle := world.system.handles index

/-- The thread that a name stands for; an unknown name stands for an empty handle. -/
def namedHandle (name : String) (world : World) : Handle :=
  match world.threads.findIdx? (· = name) with
  | some index => world.handle index
  | none => .empty

/-! The kernel -/

/-- Lengths from here on cannot be mapped, and the heap refuses sizes from here on. -/
def unmappable : Nat := 0x8000_0000_0000

def denied (code : Int) : OsError := ⟨code⟩

def memoryAnswers (denial : Denial) (world : World) : MemoryAnswers where
  map length :=
    match denial.map with
    | some code => .error ⟨code⟩
    | none => if unmappable ≤ length then .error .outOfMemory else .ok world.nextMapping
  protect := denial.protect.map denied

def heapAnswers (world : World) : HeapAnswers := fun size =>
  if unmappable ≤ size then none else some world.nextHeap

def noHeap : HeapAnswers := fun _ => none

def launchAnswers (denial : Denial) (world : World) : LaunchAnswers :=
  let answer (denied : Option Int) : Int :=
    match denied with
    | some code => -code
    | none => world.nextThreadId
  ⟨answer denial.clone3, answer denial.clone⟩

def advance (heap : Nat) (world : World) : World :=
  let top := world.machine.mappings.foldl (fun top mapping => max top (mapping.base + mapping.length))
    world.nextMapping
  { world with
    nextMapping := (top + 8191) / 4096 * 4096
    nextHeap := world.nextHeap + (heap + 31) / 16 * 16
    nextThreadId := world.nextThreadId + 1 }

def place (length skew : Nat) (world : World) : Nat × World :=
  let address := world.nextPlace + skew
  let memory := world.machine.memory.fill address length 0
  (address, { world.withMachine { world.machine with memory := memory } with
    nextPlace := world.nextPlace + (skew + length + 127) / 64 * 64 })

def placeContext (context : Context) (world : World) : Nat × World :=
  let (address, placed) := world.place Context.size 0
  (address, placed.withMachine (placed.machine.storeContext address context))

def placeCaller (world : World) : Caller × World :=
  let (home, placed) := world.placeContext .standard
  let (stack, placed) := placed.place 64 0
  (⟨stack, home⟩, placed)

def start (page : Nat) : World :=
  let blank : World := { frame := ⟨⟨0, 0⟩, []⟩, system := { machine := { page := page } } }
  let (caller, placed) := blank.placeCaller
  { placed with frame := ⟨caller, []⟩ }

/-- Runs every launched thread until it is gone, with all its wakes issued, or waits. -/
def settleSystem : Nat → System → System
  | 0, system => system
  | limit + 1, system =>
    match system.wakes with
    | block :: _ => settleSystem limit (system.wake block)
    | [] =>
      match system.threads.findSome? fun thread => system.threadStep? thread.block noHeap with
      | none => system
      | some moved => settleSystem limit moved

def stepLimit : Nat := 0x1000_0000_0000_0000

def settle (world : World) : World :=
  { world with system := settleSystem stepLimit world.system }

def openGate (index : Nat) (world : World) : World :=
  world.withMachine { world.machine with shared := world.machine.shared.openGate index }

def takeLog (world : World) : List Event × World :=
  (world.machine.log, world.withMachine { world.machine with log := [] })

/-! Labels -/

def allocatorLabel (allocator : Allocator) (world : World) : String :=
  match allocator.kind with
  | .heap => "heap"
  | .arena =>
    if allocator.data = 0 then "null"
    else ((world.arenas.find? fun entry => entry.2 = allocator.data).map Prod.fst).getD "storage"

def contextLabel (address : Nat) (world : World) : String :=
  if address = world.caller.home then "default"
  else if world.outer.any fun frame => frame.caller.home = address then "outer"
  else ((world.contexts.find? fun entry => entry.2 = address).map Prod.fst).getD "unknown"

def now (world : World) : Now where
  context := world.contextLabel (world.machine.current world.caller)
  allocator := world.allocatorLabel (world.machine.allocator world.caller)

def contextNamed? (name : String) (world : World) : Option Nat :=
  if name = "default" then some world.caller.home else world.contexts.lookup name

def blockLabel (handle : Handle) (address : Nat) (world : World) : Option String :=
  let inStorage := (handle.storage? world.machine).bind fun (start, length) =>
    if start ≤ address ∧ address < start + length then some ("storage+" ++ toString (address - start))
    else none
  let inArena := world.arenas.findSome? fun (name, place) =>
    let arena := world.machine.arenas place
    if arena.isReserved ∧ arena.base ≤ address ∧ address < arena.limit then
      some (name ++ "+" ++ toString (address - arena.base))
    else none
  inStorage.orElse fun _ => inArena

def contextLabelOn (handle : Handle) (address : Nat) (world : World) : String :=
  if handle.threadContext? world.machine = some address then "own" else world.contextLabel address

end World

end ArenaThreads.Scenario
