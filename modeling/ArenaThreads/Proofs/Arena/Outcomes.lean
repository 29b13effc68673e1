import ArenaThreads.Proofs.Arena.Ledger
/-!
What requests to an arena come to. A live block that is to have another size is stretched where it
lies, cut short, moved or refused, by where it ends and how much is left; and the arenas that there
are at a place are those that requests about live blocks lead to.
-/

namespace ArenaThreads

namespace Arena

variable {arena : Arena} {live : List Block} {block : Block} {size place : Nat} {ledger : Ledger}

def Block.Last (arena : Arena) (block : Block) : Prop := block.address + block.size = arena.start

instance (arena : Arena) (block : Block) : Decidable (block.Last arena) :=
  inferInstanceAs (Decidable (_ = _))

inductive Reallocated (arena : Arena) (block : Block) (size : Nat) : Resized → Prop
  | stretched (last : block.Last arena) (room : block.address + size ≤ arena.limit) :
    Reallocated arena block size
      { block := some block.address, arena := { arena with start := block.address + size } }
  | overlong (last : block.Last arena) (full : arena.limit < block.address + size) :
    Reallocated arena block size { block := none, arena := arena }
  | trimmed (older : ¬block.Last arena) (shorter : size ≤ block.size) :
    Reallocated arena block size { block := some block.address, arena := arena }
  | moved (older : ¬block.Last arena) (longer : block.size < size)
    (room : arena.fits size = true) :
    Reallocated arena block size ⟨some (arena.start + padding arena.start), arena.take size,
      some ⟨block.address, arena.start + padding arena.start, block.size⟩⟩
  | crowded (older : ¬block.Last arena) (longer : block.size < size)
    (full : arena.fits size = false) :
    Reallocated arena block size { block := none, arena := arena }

theorem Kept.isLast_eq (kept : Kept arena live) (named : block ∈ live) :
    arena.isLast (some block.address) block.size = decide (block.Last arena) := by
  rw [Bool.eq_iff_iff, decide_eq_true_iff]
  exact kept.isLast_iff named

theorem Kept.reallocated (kept : Kept arena live) (named : block ∈ live) (size : Nat) :
    Reallocated arena block size (arena.realloc block.address block.size size) := by
  have high := kept.high
  rw [Arena.realloc, kept.isLast_eq named]
  by_cases last : block.Last arena
  · have ends : block.address + block.size = arena.start := last
    simp only [last, decide_true, if_true]
    split
    case isTrue same =>
      subst same
      have whole : { arena with start := block.address + block.size } = arena := by rw [ends]
      have room : block.address + block.size ≤ arena.limit := by omega
      simpa only [whole] using Reallocated.stretched last room
    case isFalse differs =>
      split
      case isTrue longer =>
        split
        case isTrue full =>
          simp only [remaining] at full
          exact .overlong last (by omega)
        case isFalse room =>
          simp only [remaining] at room
          have start : arena.start + (size - block.size) = block.address + size := by omega
          rw [start]
          exact .stretched last (by omega)
      case isFalse shorter =>
        have start : arena.start - (block.size - size) = block.address + size := by omega
        rw [start]
        exact .stretched last (by omega)
  · simp only [last, decide_false, Bool.false_eq_true, if_false]
    split
    case isTrue same => exact .trimmed last (Nat.le_of_eq same.symm)
    case isFalse differs =>
      split
      case isTrue shorter => exact .trimmed last (Nat.le_of_lt shorter)
      case isFalse larger =>
        have longer : block.size < size := by omega
        cases room : arena.fits size with
        | true =>
          rw [alloc_of_fits room]
          exact .moved last longer room
        | false =>
          rw [alloc_of_not_fits room]
          exact .crowded last longer room

namespace Ledger

/-- What there can be at a place: an arena that was made, after requests about live blocks with the
sizes they have, whatever has been written meanwhile, and after its release. -/
inductive Reached (place : Nat) : Ledger → Prop
  | made {machine : Machine} (made : (machine.arenas place).Made) : Reached place { machine }
  | asked {ledger : Ledger} {request : Request} (before : Reached place ledger)
    (named : request.Names ledger.live) : Reached place (ledger.step place request)
  | written {ledger : Ledger} (memory : Memory) (before : Reached place ledger) :
    Reached place { ledger with machine := { ledger.machine with memory } }
  | released {ledger : Ledger} (before : Reached place ledger) :
    Reached place { machine := ledger.machine.releaseArena place }

theorem released_arena (place : Nat) (machine : Machine) :
    (machine.releaseArena place).arenas place = .empty := by
  rw [Machine.releaseArena]
  split <;> exact Cells.set_same ..

theorem empty_made : Arena.empty.Made := .borrowed 0 0 (by decide)

theorem Reached.kept (real : place ≠ 0) (reached : Reached place ledger) :
    Kept (ledger.arena place) ledger.live := by
  induction reached with
  | made made => exact made.kept
  | asked before named ih =>
    rw [arena_step real, step_eq real]
    exact Request.kept ih named
  | written memory before ih => exact ih
  | released before ih =>
    rw [arena, released_arena]
    exact empty_made.kept

end Ledger

end Arena

end ArenaThreads
