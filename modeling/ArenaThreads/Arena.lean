import ArenaThreads.Memory
import ArenaThreads.Size
/-!
Arenas: a bump allocator over one fixed range. The start only moves forward for a new block and back
when the most recent block is freed or shrunk; the rest of the range comes back all at once.
-/

namespace ArenaThreads

structure Mapping where
  base : Nat
  length : Nat
  deriving DecidableEq, Repr

/-- `[base, limit)` is the range and `[base, start)` the part used; an empty arena has no range. -/
structure Arena where
  base : Nat
  start : Nat
  limit : Nat
  mapping : Option Mapping
  deriving DecidableEq, Repr

namespace Arena

def alignment : Nat := 8

def empty : Arena := ⟨0, 0, 0, none⟩

def borrowed (base length : Nat) : Arena := ⟨base, base, base + length, none⟩

def owned (mapping : Mapping) (size : Nat) : Arena :=
  ⟨mapping.base, mapping.base, mapping.base + size, some mapping⟩

def remaining (arena : Arena) : Nat := arena.limit - arena.start

def capacity (arena : Arena) : Nat := arena.limit - arena.base

def used (arena : Arena) : Nat := arena.start - arena.base

def isReserved (arena : Arena) : Bool := arena.limit ≠ 0

def isOwned (arena : Arena) : Bool := arena.mapping.isSome

def padding (address : Nat) : Nat := (alignment - address % alignment) % alignment

def reset (arena : Arena) : Arena := { arena with start := arena.base }

def fits (size : Nat) (arena : Arena) : Bool :=
  size ≠ 0 && arena.start ≠ 0 && padding arena.start ≤ arena.remaining &&
    size ≤ arena.remaining - padding arena.start

def take (size : Nat) (arena : Arena) : Arena :=
  { arena with start := arena.start + padding arena.start + size }

def alloc (size : Nat) (arena : Arena) : Option Nat × Arena :=
  if arena.fits size then (some (arena.start + padding arena.start), arena.take size)
  else (none, arena)

def stride (size : Nat) : Nat := size + padding size

def room (size : Nat) (arena : Arena) : Nat :=
  if arena.fits size then (arena.remaining - padding arena.start - size) / stride size + 1 else 0

def takeAll (size : Nat) (arena : Arena) : Arena :=
  if arena.fits size then
    { arena with start :=
        arena.start + padding arena.start + (arena.room size - 1) * stride size + size }
  else arena

def isLast (block : Option Nat) (size : Nat) (arena : Arena) : Bool :=
  block.any fun address => (address + size) % wordLimit = arena.start

/-- Takes back the most recent block; every other one stays as a gap. -/
def free (block : Option Nat) (size : Nat) (arena : Arena) : Arena :=
  match block with
  | some address => if arena.isLast block size then { arena with start := address } else arena
  | none => arena

structure Move where
  source : Nat
  target : Nat
  length : Nat
  deriving DecidableEq, Repr

structure Resized where
  block : Option Nat
  arena : Arena
  move : Option Move := none
  deriving DecidableEq, Repr

/-- Resizes the most recent block in place, leaves an older one when it shrinks, else moves it. -/
def realloc (block : Nat) (oldSize newSize : Nat) (arena : Arena) : Resized :=
  if oldSize = newSize then { block := some block, arena := arena }
  else if arena.isLast (some block) oldSize then
    if oldSize < newSize then
      if arena.remaining < newSize - oldSize then { block := none, arena := arena }
      else
        { block := some block, arena := { arena with start := arena.start + (newSize - oldSize) } }
    else
      { block := some block, arena := { arena with start := arena.start - (oldSize - newSize) } }
  else if newSize < oldSize then { block := some block, arena := arena }
  else match arena.alloc newSize with
    | (some fresh, grown) => ⟨some fresh, grown, some ⟨block, fresh, oldSize⟩⟩
    | (none, _) => { block := none, arena := arena }

/-- One entry for all requests: size zero frees, no block allocates, everything else resizes. -/
def resize (block : Option Nat) (oldSize newSize : Nat) (arena : Arena) : Resized :=
  if newSize = 0 then { block := none, arena := arena.free block oldSize }
  else match block with
    | none => { block := (arena.alloc newSize).1, arena := (arena.alloc newSize).2 }
    | some address => arena.realloc address oldSize newSize

theorem padding_lt (address : Nat) : padding address < alignment := Nat.mod_lt _ (by decide)

theorem aligned_add_padding (address : Nat) : (address + padding address) % alignment = 0 := by
  simp only [padding, alignment]
  omega

theorem alloc_of_fits {size : Nat} {arena : Arena} (room : arena.fits size = true) :
    arena.alloc size = (some (arena.start + padding arena.start), arena.take size) := by
  simp [alloc, room]

theorem alloc_of_not_fits {size : Nat} {arena : Arena} (full : arena.fits size = false) :
    arena.alloc size = (none, arena) := by
  simp [alloc, full]

theorem padding_after {address : Nat} (size : Nat) (aligned : address % alignment = 0) :
    padding (address + size) = padding size := by
  simp only [padding, alignment] at aligned ⊢
  omega

theorem fits_iff (size : Nat) (arena : Arena) :
    arena.fits size = true ↔ size ≠ 0 ∧ arena.start ≠ 0 ∧
      arena.start + padding arena.start + size ≤ arena.limit := by
  simp only [fits, Bool.and_eq_true, decide_eq_true_eq]
  simp only [remaining]
  omega

theorem fits_take {size : Nat} {arena : Arena} (one : arena.fits size = true) :
    (arena.take size).fits size = true ↔
      stride size ≤ arena.remaining - padding arena.start - size := by
  obtain ⟨positive, real, bound⟩ := (fits_iff size arena).mp one
  have next : padding (arena.start + padding arena.start + size) = padding size :=
    padding_after size (aligned_add_padding arena.start)
  rw [fits_iff]
  simp only [take, remaining, stride, next]
  omega

theorem remaining_take (size : Nat) (arena : Arena) :
    (arena.take size).remaining = arena.remaining - padding arena.start - size := by
  simp only [take, remaining]
  omega

theorem padding_take (size : Nat) (arena : Arena) :
    padding (arena.take size).start = padding size :=
  padding_after size (aligned_add_padding arena.start)

theorem room_take {size : Nat} {arena : Arena} (one : arena.fits size = true) :
    arena.room size = (arena.take size).room size + 1 := by
  have positive : 0 < stride size := by
    have := ((fits_iff size arena).mp one).1
    simp only [stride]
    omega
  have further := fits_take one
  rw [room, if_pos one, room, remaining_take, padding_take]
  by_cases more : (arena.take size).fits size = true
  · rw [if_pos more]
    have space := further.mp more
    generalize arena.remaining - padding arena.start - size = left at space ⊢
    rw [Nat.sub_sub, Nat.add_comm (padding size) size, Nat.div_eq_sub_div positive space]
    rfl
  · rw [if_neg more, Nat.div_eq_of_lt (Nat.lt_of_not_le fun space => more (further.mpr space))]

theorem room_of_not_fits {size : Nat} {arena : Arena} (full : arena.fits size = false) :
    arena.room size = 0 := by
  simp [room, full]

theorem takeAll_take {size : Nat} {arena : Arena} (one : arena.fits size = true) :
    arena.takeAll size = (arena.take size).takeAll size := by
  have count := room_take one
  rw [takeAll, if_pos one, takeAll, padding_take]
  by_cases more : (arena.take size).fits size = true
  · have others := room_take more
    rw [if_pos more, count, others]
    simp only [take, stride, Nat.add_sub_cancel]
    congr 1
    rw [Nat.succ_mul]
    omega
  · have none : (arena.take size).room size = 0 := room_of_not_fits (by simpa using more)
    rw [if_neg more, count, none]
    simp [take]

theorem takeAll_of_not_fits {size : Nat} {arena : Arena} (full : arena.fits size = false) :
    arena.takeAll size = arena := by
  simp [takeAll, full]

end Arena

end ArenaThreads
