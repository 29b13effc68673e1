import ArenaThreads.Heap
import ArenaThreads.OsError
import ArenaThreads.Region
import ArenaThreads.Registry
/-!
The state that all threads of a process act on, and the operations on it that are not about one
thread handle: mapped memory, allocation, arenas and current contexts.
-/

namespace ArenaThreads

inductive MemoryCall
  | map (length : Nat) (answer : Except OsError Nat)
  | protect (base length : Nat) (failure : Option OsError)
  | unmap (mapping : Mapping)
  | heap (request : Heap.Request)
  deriving DecidableEq

structure Machine where
  page : Nat := 4096
  memory : Memory := {}
  mappings : List Mapping := []
  /-- Arenas by the address where they are kept; a thread's own one is kept at its control block. -/
  arenas : Cells Nat Arena := fun _ => .empty
  blocks : ControlBlocks := fun _ => default
  registry : Registry := {}
  /-- The current context of a thread without a control block, by the address of its default one. -/
  threadLocal : Cells Nat Nat := fun _ => 0
  cloneMissing : Bool := false
  shared : Shared := {}
  calls : List MemoryCall := []
  log : List Event := []

structure Caller where
  stack : Nat
  home : Nat
  deriving DecidableEq, Repr

abbrev HeapAnswers := Nat → Option Nat

namespace Machine

def emit (event : Event) (machine : Machine) : Machine :=
  { machine with log := machine.log ++ [event] }

def called (call : MemoryCall) (machine : Machine) : Machine :=
  { machine with calls := machine.calls ++ [call] }

/-! Mapped memory -/

def map (length : Nat) (answer : Except OsError Nat) (machine : Machine) :
    Except OsError Nat × Machine :=
  let asked := machine.called (.map length answer)
  match answer with
  | .error error => (.error error, asked)
  | .ok base =>
    (.ok base, { asked with
      mappings := ⟨base, length⟩ :: asked.mappings
      memory := asked.memory.fill base length 0 })

def protect (base length : Nat) (failure : Option OsError) (machine : Machine) : Machine :=
  machine.called (.protect base length failure)

def unmap (mapping : Mapping) (machine : Machine) : Machine :=
  { machine.called (.unmap mapping) with mappings := machine.mappings.erase mapping }

/-! Allocation -/

def heapRequest (request : Heap.Request) (answers : HeapAnswers) (machine : Machine) :
    Option Nat × Machine :=
  match request with
  | .settled block => (block, machine)
  | .allocate size => (answers size, machine.called (.heap request))
  | .deallocate .. => (none, machine.called (.heap request))
  | .reallocate block oldSize newSize =>
    let asked := machine.called (.heap request)
    match answers newSize with
    | none => (none, asked)
    | some fresh =>
      (some fresh, { asked with memory := asked.memory.copy block fresh (min oldSize newSize) })

def settleArena (place : Nat) (resized : Arena.Resized) (machine : Machine) : Machine :=
  { machine with
    arenas := machine.arenas.set place resized.arena
    memory := match resized.move with
      | none => machine.memory
      | some move => machine.memory.copy move.source move.target move.length }

def resize (allocator : Allocator) (block : Option Nat) (oldSize newSize : Nat)
    (answers : HeapAnswers) (machine : Machine) : Option Nat × Machine :=
  match allocator.kind with
  | .heap => machine.heapRequest (Heap.request block oldSize newSize) answers
  | .arena =>
    if allocator.data = 0 then (none, machine)
    else
      let resized := (machine.arenas allocator.data).resize block oldSize newSize
      (resized.block, machine.settleArena allocator.data resized)

/-- Takes as many blocks of a size as an arena has room for and fills each with the number of those
before it; how many they are. The process heap is not used up that way. -/
def fillUp (allocator : Allocator) (size : Nat) (machine : Machine) : Nat × Machine :=
  match allocator.kind with
  | .heap => (0, machine)
  | .arena =>
    let arena := machine.arenas allocator.data
    let first := arena.start + Arena.padding arena.start
    let filled := arena.takeAll size
    (arena.room size, { machine with
      arenas := machine.arenas.set allocator.data filled
      memory := machine.memory.write first (filled.start - first) fun i =>
        if i % Arena.stride size < size then UInt8.ofNat (i / Arena.stride size)
        else machine.memory (first + i) })

/-! Arenas -/

def releaseArena (place : Nat) (machine : Machine) : Machine :=
  let emptied := { machine with arenas := machine.arenas.set place .empty }
  match (machine.arenas place).mapping with
  | none => emptied
  | some mapping => (emptied.unmap mapping).emit (.arenaReleased mapping.length mapping.base)

def reserveArena (size : Nat) (answer : Except OsError Nat) (machine : Machine) :
    Except OsError Arena × Machine :=
  let length := Pages.round machine.page (max size 1)
  match machine.map length answer with
  | (.error error, asked) => (.error error, asked)
  | (.ok base, mapped) =>
    (.ok (Arena.owned ⟨base, length⟩ size), mapped.emit (.arenaReserved size length base))

def replaceArena (place : Nat) (arena : Arena) (machine : Machine) : Machine :=
  let released := machine.releaseArena place
  { released with arenas := released.arenas.set place arena }

/-! Current contexts -/

def slot (caller : Caller) (machine : Machine) : Option Nat :=
  machine.registry.lookup caller.stack machine.blocks

def threadLocalContext (caller : Caller) (machine : Machine) : Nat :=
  if machine.threadLocal caller.home = 0 then caller.home else machine.threadLocal caller.home

def current (caller : Caller) (machine : Machine) : Nat :=
  match machine.slot caller with
  | none => machine.threadLocalContext caller
  | some block =>
    if (machine.blocks block).current = 0 then machine.threadLocalContext caller
    else (machine.blocks block).current

def setThreadLocal (caller : Caller) (context : Nat) (machine : Machine) : Machine :=
  { machine with threadLocal := machine.threadLocal.set caller.home context }

def setSlot (block context : Nat) (machine : Machine) : Machine :=
  { machine with
    blocks := machine.blocks.set block { machine.blocks block with current := context } }

/-- Makes a context current and answers with the one before it. On a stack whose block has none yet
the block takes the new one first, so that the answer is the new one itself. -/
def setCurrent (caller : Caller) (context : Nat) (machine : Machine) : Nat × Machine :=
  match machine.slot caller with
  | none => (machine.current caller, machine.setThreadLocal caller context)
  | some block =>
    let before := (machine.blocks block).current
    let swapped := machine.setSlot block context
    if before ≠ 0 then (before, swapped)
    else (swapped.current caller, swapped.setThreadLocal caller context)

def contextAt (address : Nat) (machine : Machine) : Context := Context.load address machine.memory

def storeContext (address : Nat) (context : Context) (machine : Machine) : Machine :=
  { machine with memory := context.store address machine.memory }

def allocator (caller : Caller) (machine : Machine) : Allocator :=
  (machine.contextAt (machine.current caller)).allocator

end Machine

structure ContextGuard where
  previous : Nat
  deriving DecidableEq, Repr

namespace ContextGuard

def enter (caller : Caller) (context : Nat) (machine : Machine) : ContextGuard × Machine :=
  (⟨(machine.setCurrent caller context).1⟩, (machine.setCurrent caller context).2)

def leave (caller : Caller) (guard : ContextGuard) (machine : Machine) : Machine :=
  (machine.setCurrent caller guard.previous).2

end ContextGuard

end ArenaThreads
