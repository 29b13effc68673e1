import ArenaThreads.Memory
import ArenaThreads.Size
/-! The process heap: which call each request makes on it, with which size. -/

namespace ArenaThreads

namespace Heap

def alignment : Nat := 16

/-- Sizes that a block can have: not zero, and small enough to be rounded up to the alignment. -/
def isSize (size : Nat) : Bool := 0 < size && size ≤ 0x8000_0000_0000_0000 - alignment

inductive Request
  | settled (block : Option Nat)
  | allocate (size : Nat)
  | deallocate (block : Nat) (size : Nat)
  | reallocate (block : Nat) (oldSize newSize : Nat)
  deriving DecidableEq, Repr

def request (block : Option Nat) (oldSize newSize : Nat) : Request :=
  match block with
  | none => if isSize newSize then .allocate newSize else .settled none
  | some address =>
    if newSize = 0 then
      if isSize oldSize then .deallocate address oldSize else .settled none
    else if oldSize = newSize then .settled (some address)
    else if isSize oldSize && isSize newSize then .reallocate address oldSize newSize
    else .settled none

end Heap

end ArenaThreads
