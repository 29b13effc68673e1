import ArenaThreads.Scenario.World
/-! Steps on arenas and on the blocks of allocators. -/

namespace ArenaThreads.Scenario

structure Target where
  allocator : Allocator
  direct : Bool := false
  deriving DecidableEq, Repr

def after? (beginning name : String) : Option String :=
  if beginning.toList.isPrefixOf name.toList then
    some (String.ofList (name.toList.drop beginning.length))
  else none

namespace World

def contextAllocator (address : Nat) (world : World) : Allocator :=
  (world.machine.contextAt address).allocator

def target? (name : String) (world : World) : Option Target :=
  if name = "heap" ∨ name = "default" then some { allocator := .heap }
  else if name = "null" then some { allocator := .arena 0 }
  else if name = "current" then some { allocator := world.machine.allocator world.caller }
  else if let some context := after? "ctx:" name then
    (world.contextNamed? context).map fun address => { allocator := world.contextAllocator address }
  else if let some thread := after? "own:" name then
    ((world.namedHandle thread).threadContext? world.machine).map fun address =>
      { allocator := world.contextAllocator address }
  else if let some thread := after? "start:" name then
    (world.namedHandle thread).startingContext?.map fun context => { allocator := context.allocator }
  else (world.arenas.lookup name).map fun place => { allocator := .arena place, direct := true }

/-! Arenas -/

def arenaView (arena : Arena) : ArenaView :=
  ⟨arena.capacity, arena.used, arena.remaining, arena.isOwned, arena.isReserved⟩

def arenaPlace (name : String) (world : World) : Nat × World :=
  match world.arenas.lookup name with
  | some place => (place, world)
  | none =>
    let (place, placed) := world.place 32 0
    (place, { placed with arenas := placed.arenas ++ [(name, place)] })

def forgetBlocks (arena : String) (world : World) : World :=
  { world with blocks := world.blocks.filter fun entry => entry.2.label ≠ arena }

def setArena (name : String) (arena : Arena) (world : World) : Content × World :=
  let (place, placed) := world.arenaPlace name
  (.arena (arenaView arena),
    (placed.withMachine (placed.machine.replaceArena place arena)).forgetBlocks name)

def reserve (name : String) (size : Nat) (denial : Denial) (world : World) : Content × World :=
  let length := Pages.round world.machine.page (max size 1)
  let answers := world.memoryAnswers denial
  match world.machine.reserveArena size (answers.map length) with
  | (.error error, machine) => (.osError error, world.withMachine machine)
  | (.ok arena, machine) => ((world.withMachine machine).advance 0).setArena name arena

def borrow (name : String) (length skew : Nat) (world : World) : Content × World :=
  let (address, placed) := world.place length skew
  placed.setArena name (Arena.borrowed address length)

def onArena (name : String) (world : World) (change : Nat → World → World) : Content × World :=
  match world.arenas.lookup name with
  | none => (.rejected, world)
  | some place =>
    let changed := change place world
    (.arena (arenaView (changed.machine.arenas place)), changed)

def resetArena (place : Nat) (world : World) : World :=
  let machine := world.machine
  world.withMachine
    { machine with arenas := machine.arenas.set place (machine.arenas place).reset }

def releaseArena (place : Nat) (world : World) : World :=
  world.withMachine (world.machine.releaseArena place)

/-! Blocks -/

/-- Whether offsets into an arena name anything: a mapping of its own counts only with a byte in use
for it. -/
def hasMemory (arena : Arena) : Bool := arena.isReserved && (!arena.isOwned || arena.capacity ≠ 0)

def resolve? (target : Target) (ref : BlockRef) (world : World) : Option (Option Nat × Nat) :=
  let arena := world.machine.arenas target.allocator.data
  let inArena := target.allocator.kind = .arena ∧ target.allocator.data ≠ 0
  match ref with
  | .null => some (none, 0)
  | .named name =>
    match world.blocks.lookup name with
    | none => some (none, 0)
    | some block =>
      if block.label ≠ world.allocatorLabel target.allocator then none
      else if inArena ∧ (!hasMemory arena ∨ block.address < arena.base) then none
      else some (some block.address, block.size)
  | .offset offset =>
    if inArena ∧ hasMemory arena ∧ 0 ≤ offset ∧ offset ≤ arena.capacity then
      some (some (arena.base + offset.toNat), 0)
    else none

/-- Whether a block of `oldSize` bytes may be resized to `newSize`: in an arena it lies in its range,
and in the part in use when it grows; on the heap the old size is the recorded one or zero. -/
def mayResize (target : Target) (block recorded oldSize newSize : Nat) (world : World) : Bool :=
  match target.allocator.kind with
  | .heap => oldSize = 0 || oldSize = recorded
  | .arena =>
    let arena := world.machine.arenas target.allocator.data
    let stop := block - arena.base + oldSize
    stop ≤ arena.capacity && (newSize ≤ oldSize || stop ≤ arena.used)

def blockContent (target : Target) (block : Option Nat) (world : World) : Content :=
  let label := world.allocatorLabel target.allocator
  if target.allocator.kind = .arena ∧ target.allocator.data ≠ 0 then
    let arena := world.machine.arenas target.allocator.data
    let place := match block with
      | none => Place.null
      | some address => Place.offset (address - arena.base)
    .block label place (some (arena.used, arena.remaining))
  else .block label (if block.isSome then .heap else .null) none

def recordBlock (step : MemoryStep) (target : Target) (before : Option Nat) (oldSize newSize : Nat)
    (result : Option Nat) (world : World) : World :=
  let named := match step.block with
    | .named name => some name
    | _ => none
  let usedUp := target.allocator.kind = .heap ∧ before.isSome ∧ oldSize ≠ 0 ∧
    (newSize = 0 ∨ result.isSome)
  let remaining := match named with
    | some name => if usedUp then world.blocks.filter (·.1 ≠ name) else world.blocks
    | none => world.blocks
  let label := world.allocatorLabel target.allocator
  match result, step.target.orElse fun _ => named with
  | some address, some name =>
    { world with blocks := assign name ⟨address, newSize, label⟩ remaining }
  | _, _ => { world with blocks := remaining }

/-- The call of a step that is allowed. An arena asked directly moves or shrinks a block even to
size zero. -/
def callAllocator (step : MemoryStep) (target : Target) (block : Option Nat) (oldSize newSize : Nat)
    (world : World) : Option Nat × Machine :=
  let direct := target.direct && !step.viaAllocator
  match step.request, block with
  | .realloc _, some address =>
    if direct then
      let arena := world.machine.arenas target.allocator.data
      let resized := arena.realloc address oldSize newSize
      (resized.block, world.machine.settleArena target.allocator.data resized)
    else world.machine.resize target.allocator block oldSize newSize world.heapAnswers
  | _, _ => world.machine.resize target.allocator block oldSize newSize world.heapAnswers

def perform (step : MemoryStep) (target : Target) (block : Option Nat) (oldSize newSize : Nat)
    (world : World) : Content × World :=
  let (result, machine) := world.callAllocator step target block oldSize newSize
  let taken := if target.allocator.kind = .heap ∧ result.isSome then newSize else 0
  let called := (world.withMachine machine).advance taken
  (called.blockContent target result,
    called.recordBlock step target block oldSize newSize result)

def newSize : MemoryRequest → Nat
  | .alloc size | .realloc size | .resize size => size
  | .free => 0

def allowsNull (step : MemoryStep) (target : Target) : Bool :=
  match step.request with
  | .alloc _ | .resize _ => true
  | .realloc _ => false
  | .free => target.direct && !step.viaAllocator

def memoryStep (step : MemoryStep) (world : World) : Content × World :=
  match world.target? step.allocator with
  | none => (.rejected, world)
  | some target =>
    let newSize := newSize step.request
    match step.request with
    | .alloc _ => world.perform { step with block := .null } target none 0 newSize
    | _ =>
      match world.resolve? target step.block with
      | none => (.rejected, world)
      | some (none, recorded) =>
        if allowsNull step target then
          world.perform step target none (step.oldSize.getD recorded) newSize
        else (.rejected, world)
      | some (some address, recorded) =>
        let oldSize := step.oldSize.getD recorded
        if world.mayResize target address recorded oldSize newSize then
          world.perform step target (some address) oldSize newSize
        else (.rejected, world)

def range? (allocator : String) (ref : BlockRef) (length : Option Nat) (world : World) :
    Option (Nat × Nat) :=
  (world.target? allocator).bind fun target =>
    match world.resolve? target ref with
    | some (some address, recorded) =>
      let length := length.getD recorded
      let room := match target.allocator.kind with
        | .heap => recorded
        | .arena =>
          let arena := world.machine.arenas target.allocator.data
          arena.capacity - (address - arena.base)
      if length ≤ room then some (address, length) else none
    | _ => none

def fill (allocator : String) (ref : BlockRef) (length : Option Nat) (byte increment : Int)
    (world : World) : Content × World :=
  match world.range? allocator ref length with
  | none => (.rejected, world)
  | some (address, length) =>
    let memory := world.machine.memory.write address length fun i =>
      UInt8.ofNat ((byte + i * increment) % 256).toNat
    (.ok, world.withMachine { world.machine with memory := memory })

def read (allocator : String) (ref : BlockRef) (length : Option Nat) (world : World) : Content :=
  match world.range? allocator ref length with
  | none => .rejected
  | some (address, length) => .bytes (some (world.machine.memory.read address length))

end World

end ArenaThreads.Scenario
