import ArenaThreads.Proofs.Arena.Ledger
/-!
Programs that use an allocator. A program has names of its own for its blocks and knows no address,
so all it sees is whether it gets a block and which bytes it reads. Beside it stands a ledger of what
has been handed out, kept by the requests that are made and the answers to them.
-/

namespace ArenaThreads

inductive ClientStep
  | alloc (name size : Nat)
  | realloc (name size : Nat)
  | free (name : Nat)
  | write (name offset : Nat) (byte : UInt8)
  | read (name offset : Nat)
  deriving DecidableEq, Repr

def ClientStep.name : ClientStep → Nat
  | alloc name _ | realloc name _ | free name | write name _ _ | read name _ => name

def ClientStep.asked? (has : Bool) : ClientStep → Option Nat
  | alloc _ size => if has then none else some size
  | realloc _ size => if has then some size else none
  | free _ => if has then some 0 else none
  | _ => none

inductive Observation
  | answered (given : Bool)
  | byte (value : UInt8)
  deriving DecidableEq, Repr

def Arena.Block.afterRequest (had : Option Block) (size : Nat) (result : Option Nat)
    (live : List Block) : List Block :=
  afterResize (had.map Block.address) ((had.map Block.size).getD 0) size result live

def Arena.Block.renewed (size : Nat) (result : Option Nat) (had : Option Block) : Option Block :=
  if size = 0 then none
  else match result with
    | none => had
    | some fresh => some ⟨fresh, size⟩

def Heap.requestFor (had : Option Arena.Block) (size : Nat) : Request :=
  request (had.map Arena.Block.address) ((had.map Arena.Block.size).getD 0) size

instance (first second : Arena.Block) : Decidable (first.Apart second) :=
  inferInstanceAs (Decidable (_ ∨ _))

namespace Heap.Request

def book (answers : HeapAnswers) (live : List Arena.Block) : Request → List Arena.Block
  | .settled _ => live
  | .allocate size =>
    match answers size with
    | none => live
    | some fresh => ⟨fresh, size⟩ :: live
  | .deallocate block size => live.erase ⟨block, size⟩
  | .reallocate block oldSize newSize =>
    match answers newSize with
    | none => live
    | some fresh => ⟨fresh, newSize⟩ :: live.erase ⟨block, oldSize⟩

/-- A heap hands out memory that has nothing in common with its other blocks. -/
def Lawful (answers : HeapAnswers) (live : List Arena.Block) : Request → Prop
  | .allocate size => ∀ fresh ∈ answers size, ∀ other ∈ live, Arena.Block.Apart ⟨fresh, size⟩ other
  | .reallocate block oldSize newSize =>
    ∀ fresh ∈ answers newSize, ∀ other ∈ live.erase ⟨block, oldSize⟩,
      Arena.Block.Apart ⟨fresh, newSize⟩ other
  | _ => True

instance (answers : HeapAnswers) (live : List Arena.Block) :
    (request : Request) → Decidable (request.Lawful answers live)
  | .settled _ | .deallocate .. => inferInstanceAs (Decidable True)
  | .allocate size =>
    inferInstanceAs (Decidable (∀ fresh ∈ answers size, ∀ other ∈ live,
      Arena.Block.Apart ⟨fresh, size⟩ other))
  | .reallocate block oldSize newSize =>
    inferInstanceAs (Decidable (∀ fresh ∈ answers newSize, ∀ other ∈ live.erase ⟨block, oldSize⟩,
      Arena.Block.Apart ⟨fresh, newSize⟩ other))

def Exact (live : List Arena.Block) : Request → Prop
  | .deallocate block size =>
    0 < size ∧ (⟨block, size⟩ : Arena.Block) ∈ live ∧
      ∀ other ∈ live, other.address = block → other.size = size
  | .reallocate block oldSize newSize =>
    0 < oldSize ∧ 0 < newSize ∧ (⟨block, oldSize⟩ : Arena.Block) ∈ live ∧
      ∀ other ∈ live, other.address = block → other.size = oldSize
  | _ => True

end Heap.Request

structure Client where
  machine : Machine
  blocks : Cells Nat (Option Arena.Block) := fun _ => none
  live : List Arena.Block := []
  seen : List Observation := []

namespace Client

def ask (allocator : Allocator) (heap : Machine → HeapAnswers) (name size : Nat) (client : Client) :
    Option Nat × Machine :=
  client.machine.resize allocator ((client.blocks name).map Arena.Block.address)
    (((client.blocks name).map Arena.Block.size).getD 0) size (heap client.machine)

def heapRequest (name size : Nat) (client : Client) : Heap.Request :=
  Heap.requestFor (client.blocks name) size

def ledger (allocator : Allocator) (heap : Machine → HeapAnswers) (name size : Nat)
    (client : Client) : List Arena.Block :=
  match allocator.kind with
  | .heap => (client.heapRequest name size).book (heap client.machine) client.live
  | .arena =>
    Arena.Block.afterRequest (client.blocks name) size (client.ask allocator heap name size).1
      client.live

def request (allocator : Allocator) (heap : Machine → HeapAnswers) (name size : Nat)
    (client : Client) : Client where
  machine := (client.ask allocator heap name size).2
  blocks := client.blocks.set name
    (Arena.Block.renewed size (client.ask allocator heap name size).1 (client.blocks name))
  live := client.ledger allocator heap name size
  seen := client.seen ++ [.answered (client.ask allocator heap name size).1.isSome]

def asked? (client : Client) (step : ClientStep) : Option Nat :=
  step.asked? (client.blocks step.name).isSome

def touch (client : Client) : ClientStep → Client
  | .write name offset byte =>
    match client.blocks name with
    | none => client
    | some block =>
      if offset < block.size then
        { client with machine := { client.machine with
            memory := client.machine.memory.write (block.address + offset) 1 fun _ => byte } }
      else client
  | .read name offset =>
    match client.blocks name with
    | none => client
    | some block =>
      if offset < block.size then
        { client with
          seen := client.seen ++ [.byte (client.machine.memory (block.address + offset))] }
      else client
  | _ => client

def step (allocator : Allocator) (heap : Machine → HeapAnswers) (step : ClientStep)
    (client : Client) : Client :=
  match client.asked? step with
  | some size => client.request allocator heap step.name size
  | none => client.touch step

def run (allocator : Allocator) (heap : Machine → HeapAnswers) (program : List ClientStep)
    (client : Client) : Client :=
  program.foldl (fun client step => client.step allocator heap step) client

/-- Something holds of each step of a program and of the client before it. -/
def Throughout (allocator : Allocator) (heap : Machine → HeapAnswers)
    (Holds : ClientStep → Client → Prop) : List ClientStep → Client → Prop
  | [], _ => True
  | step :: rest, client =>
    Holds step client ∧ Throughout allocator heap Holds rest (client.step allocator heap step)

def Lawful (heap : Machine → HeapAnswers) (step : ClientStep) (client : Client) : Prop :=
  ∀ size ∈ client.asked? step,
    (client.heapRequest step.name size).Lawful (heap client.machine) client.live

def Granted (allocator : Allocator) (heap : Machine → HeapAnswers) (step : ClientStep)
    (client : Client) : Prop :=
  ∀ size ∈ client.asked? step, size ≠ 0 → (client.ask allocator heap step.name size).1.isSome

instance (heap : Machine → HeapAnswers) (step : ClientStep) (client : Client) :
    Decidable (client.Lawful heap step) :=
  inferInstanceAs (Decidable (∀ size ∈ client.asked? step, _))

instance (allocator : Allocator) (heap : Machine → HeapAnswers) (step : ClientStep)
    (client : Client) : Decidable (client.Granted allocator heap step) :=
  inferInstanceAs (Decidable (∀ size ∈ client.asked? step, size ≠ 0 →
    (client.ask allocator heap step.name size).1.isSome))

instance decidableThroughout (allocator : Allocator) (heap : Machine → HeapAnswers)
    (Holds : ClientStep → Client → Prop) [∀ step client, Decidable (Holds step client)] :
    (program : List ClientStep) → (client : Client) →
      Decidable (Throughout allocator heap Holds program client)
  | [], _ => inferInstanceAs (Decidable True)
  | step :: rest, client =>
    have : Decidable (Throughout allocator heap Holds rest (client.step allocator heap step)) :=
      decidableThroughout allocator heap Holds rest _
    inferInstanceAs (Decidable (Holds step client ∧ _))

def Exact (step : ClientStep) (client : Client) : Prop :=
  ∀ size ∈ client.asked? step, (client.heapRequest step.name size).Exact client.live

end Client

def Arena.Block.SameBytes (block : Arena.Block) (before after : Memory) : Prop :=
  ∀ i, i < block.size → after (block.address + i) = before (block.address + i)

/-- A step leaves all blocks but the one it is about as they are. That one keeps the bytes that its
old and its new size have in common, and there is no block of no bytes. -/
structure Client.Contained (allocator : Allocator) (heap : Machine → HeapAnswers)
    (step : ClientStep) (client : Client) : Prop where
  names : ∀ name, name ≠ step.name → (client.step allocator heap step).blocks name = client.blocks name
  others : ∀ name block, name ≠ step.name → client.blocks name = some block →
    block.SameBytes client.machine.memory (client.step allocator heap step).machine.memory
  strangers : ∀ block ∈ client.live, client.blocks step.name ≠ some block →
    block ∈ (client.step allocator heap step).live ∧
      block.SameBytes client.machine.memory (client.step allocator heap step).machine.memory
  given : ∀ size ∈ client.asked? step, ∀ address ∈ (client.ask allocator heap step.name size).1,
    (client.step allocator heap step).blocks step.name = some ⟨address, size⟩
  resized : ∀ size ∈ client.asked? step, ∀ block ∈ client.blocks step.name,
    ∀ fresh ∈ (client.step allocator heap step).blocks step.name, ∀ i, i < min block.size fresh.size →
      (client.step allocator heap step).machine.memory (fresh.address + i) =
        client.machine.memory (block.address + i)
  zero : 0 ∈ client.asked? step → (client.ask allocator heap step.name 0).1 = none ∧
    (client.step allocator heap step).blocks step.name = none

end ArenaThreads
