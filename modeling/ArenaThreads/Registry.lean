import ArenaThreads.ControlBlock
/-!
The registry of control blocks: a list linked through the blocks themselves, which finds the block
whose stack holds an address.
-/

namespace ArenaThreads

structure Registry where
  head : Nat := 0
  live : Nat := 0
  deriving DecidableEq, Repr

namespace Registry

def walk (blocks : ControlBlocks) : Nat → Nat → List Nat
  | 0, _ => []
  | limit + 1, block =>
    if block = 0 then [] else block :: walk blocks limit (blocks block).next

def members (registry : Registry) (blocks : ControlBlocks) : List Nat :=
  walk blocks registry.live registry.head

def register (block : Nat) (blocks : ControlBlocks) (registry : Registry) :
    ControlBlocks × Registry :=
  (blocks.set block { blocks block with next := registry.head }, ⟨block, registry.live + 1⟩)

def unregister (block : Nat) (blocks : ControlBlocks) (registry : Registry) :
    ControlBlocks × Registry :=
  if !(registry.members blocks).contains block then (blocks, registry)
  else if registry.head = block then (blocks, ⟨(blocks block).next, registry.live - 1⟩)
  else match (registry.members blocks).find? fun member => (blocks member).next = block with
    | some member =>
      (blocks.set member { blocks member with next := (blocks block).next },
        ⟨registry.head, registry.live - 1⟩)
    | none => (blocks, registry)

/-- The block whose stack holds the address; an empty registry is not walked. -/
def lookup (address : Nat) (blocks : ControlBlocks) (registry : Registry) : Option Nat :=
  if registry.live = 0 then none
  else (registry.members blocks).find? fun member => (blocks member).holds address

end Registry

end ArenaThreads
