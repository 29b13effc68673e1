import ArenaThreads.Arena
import ArenaThreads.ControlBlock
import ArenaThreads.Sizing
/-!
The memory of one thread: a guard page, the stack with the control block at its top, and the storage
right above, in this order in one mapping.
-/

namespace ArenaThreads

structure Region where
  base : Nat
  length : Nat
  guard : Nat
  stack : Nat
  storage : Nat
  deriving DecidableEq, Repr

namespace Region

def length? (page : Nat) (sizing : Sizing) : Option Nat :=
  if page + sizing.stack < wordLimit ∧ page + sizing.stack + sizing.storage < wordLimit then
    some (page + sizing.stack + sizing.storage)
  else none

def mapping (region : Region) : Mapping := ⟨region.base, region.length⟩

def stackLow (region : Region) : Nat := region.base + region.guard

def storageStart (region : Region) : Nat := region.base + region.guard + region.stack

/-- The highest aligned address with room for a control block below the storage. -/
def block (region : Region) : Nat :=
  let top := region.stackLow + region.stack - ControlBlock.size
  top - top % ControlBlock.alignment

def fits (sizing : Sizing) (region : Region) : Bool :=
  region.stack = sizing.stack && region.storage = sizing.storage

end Region

end ArenaThreads
