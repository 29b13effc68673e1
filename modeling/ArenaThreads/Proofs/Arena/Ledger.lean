import ArenaThreads.Proofs.Arena.Operations
/-!
Requests to one arena, made to it directly or through an allocator, and a ledger of the blocks that
are live after them. As long as each request names live blocks with the sizes they have, the arena
keeps its range and the blocks their places, without knowing the ledger.
-/

namespace ArenaThreads

namespace Arena

inductive Request
  | alloc (size : Nat)
  | free (block : Option Nat) (size : Nat)
  | realloc (block oldSize newSize : Nat)
  | resize (block : Option Nat) (oldSize newSize : Nat)
  | view (block : Option Nat) (oldSize newSize : Nat)
  | reset
  deriving DecidableEq, Repr

namespace Request

/-- Whether a request names a live block with its size, or none, and a block asked for directly gets
one byte at least. -/
def Names (live : List Block) : Request → Prop
  | .alloc _ | .reset => True
  | .free block size | .resize block size _ | .view block size _ =>
    ∀ address ∈ block, (⟨address, size⟩ : Block) ∈ live
  | .realloc block oldSize newSize => (⟨block, oldSize⟩ : Block) ∈ live ∧ 0 < newSize

instance (live : List Block) : (request : Request) → Decidable (request.Names live)
  | .alloc _ | .reset => inferInstanceAs (Decidable True)
  | .free block size | .resize block size _ | .view block size _ =>
    inferInstanceAs (Decidable (∀ address ∈ block, (⟨address, size⟩ : Block) ∈ live))
  | .realloc block oldSize newSize =>
    inferInstanceAs (Decidable ((⟨block, oldSize⟩ : Block) ∈ live ∧ 0 < newSize))

def resized (arena : Arena) : Request → Resized
  | .alloc size => { block := (arena.alloc size).1, arena := (arena.alloc size).2 }
  | .free block size => { block := none, arena := arena.free block size }
  | .realloc block oldSize newSize => arena.realloc block oldSize newSize
  | .resize block oldSize newSize | .view block oldSize newSize =>
    arena.resize block oldSize newSize
  | .reset => { block := none, arena := arena.reset }

def resized? (arena : Arena) : Request → Option Resized
  | .alloc size => (arena.alloc? size).map fun (block, arena) => { block, arena }
  | .realloc block oldSize newSize => arena.realloc? block oldSize newSize
  | .resize block oldSize newSize | .view block oldSize newSize =>
    arena.resize? block oldSize newSize
  | .free block size => some { block := none, arena := arena.free block size }
  | .reset => some { block := none, arena := arena.reset }

def perform (place : Nat) (request : Request) (machine : Machine) : Option Nat × Machine :=
  match request with
  | .view block oldSize newSize =>
    machine.resize (.arena place) block oldSize newSize fun _ => none
  | _ =>
    let outcome := request.resized (machine.arenas place)
    (outcome.block, machine.settleArena place outcome)

def book (result : Option Nat) (live : List Block) : Request → List Block
  | .alloc size => Block.afterResize none 0 size result live
  | .free block size => Block.without block size live
  | .realloc block oldSize newSize => Block.afterResize (some block) oldSize newSize result live
  | .resize block oldSize newSize | .view block oldSize newSize =>
    Block.afterResize block oldSize newSize result live
  | .reset => []

end Request

structure Ledger where
  machine : Machine
  live : List Block := []

namespace Ledger

def step (place : Nat) (ledger : Ledger) (request : Request) : Ledger :=
  let (result, machine) := request.perform place ledger.machine
  ⟨machine, request.book result ledger.live⟩

def run (place : Nat) (requests : List Request) (ledger : Ledger) : Ledger :=
  requests.foldl (step place) ledger

def NamedRun (place : Nat) : List Request → Ledger → Prop
  | [], _ => True
  | request :: rest, ledger =>
    request.Names ledger.live ∧ NamedRun place rest (ledger.step place request)

instance decidableNamedRun (place : Nat) : (requests : List Request) → (ledger : Ledger) →
    Decidable (NamedRun place requests ledger)
  | [], _ => inferInstanceAs (Decidable True)
  | request :: rest, ledger =>
    have : Decidable (NamedRun place rest (ledger.step place request)) :=
      decidableNamedRun place rest _
    inferInstanceAs (Decidable (request.Names ledger.live ∧ _))

def arena (place : Nat) (ledger : Ledger) : Arena := ledger.machine.arenas place

end Ledger

variable {arena made : Arena} {live : List Block} {request : Request}

namespace Request

theorem perform_eq {place : Nat} (real : place ≠ 0) (request : Request) (machine : Machine) :
    request.perform place machine =
      ((request.resized (machine.arenas place)).block,
        machine.settleArena place (request.resized (machine.arenas place))) := by
  cases request with
  | view block oldSize newSize => simp [perform, resized, Machine.resize, Allocator.arena, real]
  | _ => rfl

theorem kept (holds : Kept arena live) (named : request.Names live) :
    Kept (request.resized arena).arena (request.book (request.resized arena).block live) := by
  cases request with
  | alloc size => exact holds.alloc size
  | free block size => exact holds.free named
  | realloc block oldSize newSize => exact holds.realloc named.1 named.2
  | resize block oldSize newSize => exact holds.resize newSize named
  | view block oldSize newSize => exact holds.resize newSize named
  | reset => exact holds.reset

theorem resized_exact (holds : Kept arena live) (named : request.Names live) :
    request.resized? arena = some (request.resized arena) := by
  have inUse {block : Option Nat} {size : Nat}
      (member : ∀ address ∈ block, (⟨address, size⟩ : Block) ∈ live) :
      block.isSome → size ≤ arena.used := by
    intro there
    obtain ⟨address, rfl⟩ := Option.isSome_iff_exists.mp there
    exact holds.size_le_used (member address rfl)
  cases request with
  | alloc size => simp [resized?, resized, holds.alloc_exact]
  | realloc block oldSize newSize => exact holds.realloc_exact newSize (holds.size_le_used named.1)
  | resize block oldSize newSize => exact holds.resize_exact newSize (inUse named)
  | view block oldSize newSize => exact holds.resize_exact newSize (inUse named)
  | free block size => rfl
  | reset => rfl

theorem clear (holds : Kept arena live) (named : request.Names live) {move : Move}
    (moves : (request.resized arena).move = some move) : move.Clear := by
  cases request with
  | realloc block oldSize newSize => exact holds.realloc_clear named.1 moves
  | resize block oldSize newSize => exact holds.resize_clear named moves
  | view block oldSize newSize => exact holds.resize_clear named moves
  | _ => cases moves

theorem range (arena : Arena) (request : Request) :
    (request.resized arena).arena.reset = arena.reset := by
  cases request with
  | alloc size => exact alloc_range arena size
  | free block size => exact free_range arena block size
  | realloc block oldSize newSize => exact realloc_range arena block oldSize newSize
  | resize block oldSize newSize => exact resize_range arena block oldSize newSize
  | view block oldSize newSize => exact resize_range arena block oldSize newSize
  | reset => rfl

end Request

namespace Ledger

/-- What holds of an arena beside the ledger of its blocks: it is in order and has the range it was
made with, and no further request takes away more than there is or moves a block onto itself. -/
structure Sound (place : Nat) (made : Arena) (ledger : Ledger) : Prop where
  kept : Kept (ledger.arena place) ledger.live
  range : (ledger.arena place).reset = made
  total : (ledger.arena place).used + (ledger.arena place).remaining = (ledger.arena place).capacity
  capacity : (ledger.arena place).capacity = made.capacity
  remaining_exact : (ledger.arena place).remaining? = some (ledger.arena place).remaining
  used_exact : (ledger.arena place).used? = some (ledger.arena place).used
  capacity_exact : (ledger.arena place).capacity? = some (ledger.arena place).capacity
  resized_exact : ∀ request : Request, request.Names ledger.live →
    request.resized? (ledger.arena place) = some (request.resized (ledger.arena place))
  clear : ∀ request : Request, request.Names ledger.live →
    ∀ move, (request.resized (ledger.arena place)).move = some move → move.Clear

variable {place : Nat} {ledger : Ledger} {requests : List Request}

theorem step_eq (real : place ≠ 0) (ledger : Ledger) (request : Request) :
    ledger.step place request =
      ⟨ledger.machine.settleArena place (request.resized (ledger.arena place)),
        request.book (request.resized (ledger.arena place)).block ledger.live⟩ := by
  simp only [step, Request.perform_eq real, arena]

theorem arena_step (real : place ≠ 0) (ledger : Ledger) (request : Request) :
    (ledger.step place request).arena place = (request.resized (ledger.arena place)).arena := by
  rw [step_eq real]
  exact Cells.set_same _ _ _

theorem run_kept (real : place ≠ 0) (named : NamedRun place requests ledger)
    (holds : Kept (ledger.arena place) ledger.live) :
    Kept ((ledger.run place requests).arena place) (ledger.run place requests).live ∧
      ((ledger.run place requests).arena place).reset = (ledger.arena place).reset := by
  induction requests generalizing ledger with
  | nil => exact ⟨holds, rfl⟩
  | cons request rest ih =>
    have after :
        Kept ((ledger.step place request).arena place) (ledger.step place request).live := by
      rw [arena_step real, step_eq real]
      exact request.kept holds named.1
    obtain ⟨kept, range⟩ := ih named.2 after
    refine ⟨kept, range.trans ?_⟩
    rw [arena_step real]
    exact request.range _

end Ledger

/-- An arena that was made and is asked only about live blocks, with their sizes, keeps its range
and all of them, however it is asked and in whichever order. -/
theorem ledger_sound {place : Nat} {machine : Machine} {requests : List Request} (real : place ≠ 0)
    (made : (machine.arenas place).Made) (named : Ledger.NamedRun place requests { machine }) :
    (Ledger.run place requests { machine }).Sound place (machine.arenas place) := by
  obtain ⟨kept, range⟩ := Ledger.run_kept real named made.kept
  have same := range.trans made.reset
  refine ⟨kept, same, kept.total, ?_, kept.remaining_exact, kept.used_exact, kept.capacity_exact,
    ?_, ?_⟩
  · calc
      (Ledger.arena place _).capacity = (Ledger.arena place _).reset.capacity := rfl
      _ = (machine.arenas place).capacity := by rw [same]
  · intro request names
    exact request.resized_exact kept names
  · intro request names move moves
    exact request.clear kept names moves

theorem ledger_sound_moved :
    let machine : Machine := { arenas := fun _ => .owned ⟨65536, 4096⟩ 200 }
    let requests := [.alloc 10, .alloc 20, .view none 0 5, .realloc 65536 10 40,
      .resize (some 65552) 20 8, .view (some 65584) 40 0]
    (Ledger.run 64 requests { machine }).live = [⟨65552, 8⟩, ⟨65576, 5⟩] ∧
      (Ledger.run 64 requests { machine }).Sound 64 (machine.arenas 64) := by
  intro machine requests
  have made : (machine.arenas 64).Made := by
    refine @Made.reserved {} _ 200 (.ok 65536) _ (by decide) ?_ rfl
    rintro base ⟨⟩
    exact ⟨by decide, by decide⟩
  exact ⟨by decide, ledger_sound (by decide) made (by decide)⟩

end Arena

end ArenaThreads
