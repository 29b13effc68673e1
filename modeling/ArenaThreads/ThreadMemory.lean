import ArenaThreads.Machine
/-! The memory a thread runs in: reserving it, preparing it for a run, and giving it back. -/

namespace ArenaThreads

structure MemoryAnswers where
  map : Nat → Except OsError Nat
  protect : Option OsError := none

structure Assignment where
  function : ThreadFunction
  argument : Nat
  context : Context

structure ThreadMemory where
  region : Region
  registered : Bool
  deriving DecidableEq, Repr

namespace Machine

def reserveRegion (sizing : Sizing) (answers : MemoryAnswers) (machine : Machine) :
    Except OsError Region × Machine :=
  match Region.length? machine.page sizing with
  | none => (.error .outOfMemory, machine)
  | some length =>
    match machine.map length (answers.map length) with
    | (.error error, asked) => (.error error, asked)
    | (.ok base, mapped) =>
      let guarded := mapped.protect base machine.page answers.protect
      match answers.protect with
      | some error => (.error error, guarded.unmap ⟨base, length⟩)
      | none => (.ok ⟨base, length, machine.page, sizing.stack, sizing.storage⟩, guarded)

def register (block : Nat) (machine : Machine) : Machine :=
  let (blocks, registry) := machine.registry.register block machine.blocks
  { machine with blocks := blocks, registry := registry }

def unregister (block : Nat) (machine : Machine) : Machine :=
  let (blocks, registry) := machine.registry.unregister block machine.blocks
  { machine with blocks := blocks, registry := registry }

end Machine

namespace ThreadMemory

def block (memory : ThreadMemory) : Nat := memory.region.block

def allocate (sizing : Sizing) (answers : MemoryAnswers) (machine : Machine) :
    Except OsError ThreadMemory × Machine :=
  match machine.reserveRegion sizing answers with
  | (.error error, asked) => (.error error, asked)
  | (.ok region, mapped) => (.ok ⟨region, false⟩, mapped)

def withdraw (memory : ThreadMemory) (machine : Machine) : Machine :=
  if memory.registered then machine.unregister memory.block else machine

def release (memory : ThreadMemory) (machine : Machine) : Machine :=
  (memory.withdraw machine).unmap memory.region.mapping

def freshBlock (assignment : Assignment) (memory : ThreadMemory) : ControlBlock where
  function := assignment.function
  argument := assignment.argument
  stackSize := memory.block - memory.region.stackLow
  storage := memory.region.storageStart
  storageSize := memory.region.storage
  stackLow := memory.region.stackLow
  stackHigh := memory.block

def freshArena (memory : ThreadMemory) : Arena :=
  Arena.borrowed memory.region.storageStart memory.region.storage

/-- Writes a new control block, starts a new arena over the storage, and puts a copy of the context
into it that has this arena as its allocator. Fails when the copy does not fit the storage. -/
def prepare (assignment : Assignment) (memory : ThreadMemory) (machine : Machine) :
    Except OsError ThreadMemory × Machine :=
  let withdrawn := memory.withdraw machine
  let block := memory.freshBlock assignment
  let (copy, arena) := memory.freshArena.alloc Context.size
  let written := { withdrawn with
    blocks := withdrawn.blocks.set memory.block block
    arenas := withdrawn.arenas.set memory.block arena }
  match copy with
  | none => (.error .outOfMemory, written)
  | some address =>
    let context : Context := { assignment.context with allocator := .arena memory.block }
    let placed := { written.storeContext address context with
      blocks := written.blocks.set memory.block { block with context := address } }
    (.ok { memory with registered := true }, placed.register memory.block)

end ThreadMemory

end ArenaThreads
