import ArenaThreads.Proofs.Arena.Blocks
import ArenaThreads.Proofs.Region.Layout
import Mathlib.Data.Nat.PSub
/-!
The operations of an arena on blocks that are named right: each keeps the blocks in their places,
moves a block only to where it did not lie, and takes away no more than there is.
-/

namespace ArenaThreads

structure Mapping.Granted (mapping : Mapping) : Prop where
  short : mapping.length < 2 ^ 47
  fits : mapping.base + mapping.length < wordLimit

namespace Arena

/-- The arenas there are: at the beginning of a mapping of their own, or over memory of somebody
else's. A page size is what a signed word can report. -/
inductive Made : Arena → Prop
  | reserved {machine after : Machine} {size : Nat} {answer : Except OsError Nat} {arena : Arena}
      (page : machine.page ≤ 2 ^ 63)
      (granted : ∀ base, answer = .ok base →
        Mapping.Granted ⟨base, Pages.round machine.page (max size 1)⟩)
      (had : machine.reserveArena size answer = (.ok arena, after)) : Made arena
  | borrowed (base length : Nat) (fits : base + length < wordLimit) : Made (borrowed base length)

/-! The operations with subtractions that give nothing where more is taken away than there is -/

def remaining? (arena : Arena) : Option Nat := arena.limit.psub arena.start

def capacity? (arena : Arena) : Option Nat := arena.limit.psub arena.base

def used? (arena : Arena) : Option Nat := arena.start.psub arena.base

def alloc? (size : Nat) (arena : Arena) : Option (Option Nat × Arena) :=
  if size = 0 ∨ arena.start = 0 then some (none, arena)
  else do
    let remaining ← arena.remaining?
    if remaining < padding arena.start then return (none, arena)
    let room ← remaining.psub (padding arena.start)
    if room < size then return (none, arena)
    return (some (arena.start + padding arena.start), arena.take size)

def realloc? (block : Nat) (oldSize newSize : Nat) (arena : Arena) : Option Resized :=
  if oldSize = newSize then some { block := some block, arena := arena }
  else if arena.isLast (some block) oldSize then
    if oldSize < newSize then do
      let grow ← newSize.psub oldSize
      let remaining ← arena.remaining?
      if remaining < grow then return { block := none, arena := arena }
      return { block := some block, arena := { arena with start := arena.start + grow } }
    else do
      let shrink ← oldSize.psub newSize
      let start ← arena.start.psub shrink
      return { block := some block, arena := { arena with start := start } }
  else if newSize < oldSize then some { block := some block, arena := arena }
  else do
    match ← arena.alloc? newSize with
    | (some fresh, grown) => return ⟨some fresh, grown, some ⟨block, fresh, oldSize⟩⟩
    | (none, _) => return { block := none, arena := arena }

def resize? (block : Option Nat) (oldSize newSize : Nat) (arena : Arena) : Option Resized :=
  if newSize = 0 then some { block := none, arena := arena.free block oldSize }
  else match block with
    | none => do
      let (fresh, grown) ← arena.alloc? newSize
      return { block := fresh, arena := grown }
    | some address => arena.realloc? address oldSize newSize

variable {arena : Arena} {live : List Block}

namespace Bounded

theorem remaining_exact (bounded : arena.Bounded) : arena.remaining? = some arena.remaining :=
  Nat.psub_eq_sub bounded.high

theorem capacity_exact (bounded : arena.Bounded) : arena.capacity? = some arena.capacity :=
  Nat.psub_eq_sub (Nat.le_trans bounded.low bounded.high)

theorem used_exact (bounded : arena.Bounded) : arena.used? = some arena.used :=
  Nat.psub_eq_sub bounded.low

theorem total (bounded : arena.Bounded) : arena.used + arena.remaining = arena.capacity := by
  have low := bounded.low
  have high := bounded.high
  simp only [used, remaining, capacity]
  omega

theorem alloc_exact (bounded : arena.Bounded) (size : Nat) :
    arena.alloc? size = some (arena.alloc size) := by
  by_cases empty : size = 0 ∨ arena.start = 0
  · have full : arena.fits size = false := by
      rcases empty with zero | unreal <;> simp [fits, *]
    rw [alloc?, if_pos empty, alloc_of_not_fits full]
  · obtain ⟨some, real⟩ := not_or.mp empty
    rw [alloc?, if_neg empty, bounded.remaining_exact]
    by_cases padded : arena.remaining < padding arena.start
    · simp [alloc, fits, padded, Nat.not_le.mpr padded]
    · have enough := Nat.not_lt.mp padded
      have exact := Nat.psub_eq_sub enough
      by_cases narrow : arena.remaining - padding arena.start < size
      · simp [alloc, fits, padded, exact, narrow, Nat.not_le.mpr narrow]
      · simp [alloc, fits, padded, exact, narrow, some, real, enough, Nat.not_lt.mp narrow]

theorem realloc_exact (bounded : arena.Bounded) {block oldSize : Nat} (newSize : Nat)
    (inUse : oldSize ≤ arena.used) :
    arena.realloc? block oldSize newSize = some (arena.realloc block oldSize newSize) := by
  rw [realloc?, realloc]
  split
  case isTrue same => rfl
  case isFalse differs =>
  split
  case isTrue last =>
    split
    case isTrue grows =>
      rw [Nat.psub_eq_sub (Nat.le_of_lt grows), bounded.remaining_exact]
      by_cases full : arena.remaining < newSize - oldSize <;> simp [full]
    case isFalse shrinks =>
      have back : oldSize - newSize ≤ arena.start := by
        simp only [used] at inUse
        omega
      rw [Nat.psub_eq_sub (Nat.not_lt.mp shrinks)]
      simp [Nat.psub_eq_sub back]
  case isFalse older =>
    split
    case isTrue shrinks => rfl
    case isFalse grows =>
      rw [bounded.alloc_exact]
      rcases arena.alloc newSize with ⟨_ | fresh, grown⟩ <;> rfl

theorem resize_exact (bounded : arena.Bounded) {block : Option Nat} {oldSize : Nat} (newSize : Nat)
    (inUse : block.isSome → oldSize ≤ arena.used) :
    arena.resize? block oldSize newSize = some (arena.resize block oldSize newSize) := by
  by_cases frees : newSize = 0
  · simp [resize?, resize, frees]
  · cases block with
    | none => simp [resize?, resize, frees, bounded.alloc_exact]
    | some address => simpa [resize?, resize, frees] using bounded.realloc_exact newSize (inUse rfl)

end Bounded

def Move.Clear (move : Move) : Prop :=
  move.source + move.length ≤ move.target ∨ move.target + move.length ≤ move.source

theorem realloc_move {block oldSize newSize : Nat} {move : Move}
    (moves : (arena.realloc block oldSize newSize).move = some move) :
    move = ⟨block, arena.start + padding arena.start, oldSize⟩ := by
  rw [Arena.realloc] at moves
  split at moves
  case isTrue same => cases moves
  case isFalse differs =>
  split at moves
  case isTrue last =>
    split at moves
    · split at moves <;> cases moves
    · cases moves
  case isFalse older =>
  split at moves
  case isTrue shrinks => cases moves
  case isFalse grows =>
  by_cases room : arena.fits newSize = true
  · rw [alloc_of_fits room] at moves
    exact (Option.some.inj moves).symm
  · rw [alloc_of_not_fits (Bool.eq_false_iff.mpr room)] at moves
    cases moves

namespace Kept

theorem isLast_iff (kept : Kept arena live) {block size : Nat} (named : ⟨block, size⟩ ∈ live) :
    arena.isLast (some block) size = true ↔ block + size = arena.start := by
  have ends := (kept.placed _ named).high
  have inside : block + size < wordLimit :=
    Nat.lt_of_le_of_lt (Nat.le_trans ends kept.high) kept.word
  simp [isLast, Nat.mod_eq_of_lt inside]

theorem size_le_used (kept : Kept arena live) {block : Block} (named : block ∈ live) :
    block.size ≤ arena.used := by
  have placed := kept.placed block named
  have low := placed.low
  have high := placed.high
  simp only [used]
  omega

theorem alloc (kept : Kept arena live) (size : Nat) :
    Kept (arena.alloc size).2 (Block.afterResize none 0 size (arena.alloc size).1 live) := by
  by_cases room : arena.fits size = true
  · obtain ⟨positive, -, bound⟩ := (fits_iff size arena).mp room
    rw [alloc_of_fits room, Block.afterResize, if_neg positive]
    exact kept.push (Nat.pos_of_ne_zero positive) (aligned_add_padding arena.start)
      (Nat.le_add_right _ _) bound
  · rw [alloc_of_not_fits (Bool.eq_false_iff.mpr room)]
    simpa [Block.afterResize, Block.without] using kept

theorem free (kept : Kept arena live) {block : Option Nat} {size : Nat}
    (named : ∀ address ∈ block, (⟨address, size⟩ : Block) ∈ live) :
    Kept (arena.free block size) (Block.without block size live) := by
  cases block with
  | none => exact kept
  | some address =>
    have live := named address rfl
    simp only [Arena.free, Block.without]
    split
    case isTrue last => exact (kept.front live).back ((kept.isLast_iff live).mp last)
    case isFalse older => exact kept.erase _

theorem relocate (kept : Kept arena live) {block oldSize newSize : Nat}
    (room : arena.fits newSize = true) :
    Kept (arena.take newSize) (⟨arena.start + padding arena.start, newSize⟩ ::
      live.erase ⟨block, oldSize⟩) := by
  have taken := kept.alloc newSize
  have positive := ((fits_iff newSize arena).mp room).1
  rw [alloc_of_fits room, Block.afterResize, if_neg positive] at taken
  exact taken.sublist (List.erase_sublist.cons_cons _)

theorem realloc (kept : Kept arena live) {block oldSize newSize : Nat}
    (named : ⟨block, oldSize⟩ ∈ live) (positive : 0 < newSize) :
    Kept (arena.realloc block oldSize newSize).arena
      (Block.afterResize (some block) oldSize newSize
        (arena.realloc block oldSize newSize).block live) := by
  have front := kept.front named
  simp only [Block.afterResize, Block.without, if_neg (Nat.pos_iff_ne_zero.mp positive)]
  rw [Arena.realloc]
  split
  case isTrue same =>
    subst same
    exact front
  case isFalse differs =>
  split
  case isTrue last =>
    have ends := (kept.isLast_iff named).mp last
    have high := kept.high
    split
    case isTrue grows =>
      split
      case isTrue full => exact kept
      case isFalse room =>
        have start : arena.start + (newSize - oldSize) = block + newSize := by omega
        have bound : block + newSize ≤ arena.limit := by
          simp only [remaining] at room
          omega
        rw [start]
        exact front.stretch ends positive bound
    case isFalse shrinks =>
      have start : arena.start - (oldSize - newSize) = block + newSize := by omega
      have bound : block + newSize ≤ arena.limit := by omega
      rw [start]
      exact front.stretch ends positive bound
  case isFalse older =>
    split
    case isTrue shrinks => exact front.trim positive (Nat.le_of_lt shrinks)
    case isFalse grows =>
      by_cases room : arena.fits newSize = true
      · rw [alloc_of_fits room]
        exact kept.relocate room
      · rw [alloc_of_not_fits (Bool.eq_false_iff.mpr room)]
        exact kept

theorem resize (kept : Kept arena live) {block : Option Nat} {oldSize : Nat} (newSize : Nat)
    (named : ∀ address ∈ block, (⟨address, oldSize⟩ : Block) ∈ live) :
    Kept (arena.resize block oldSize newSize).arena
      (Block.afterResize block oldSize newSize
        (arena.resize block oldSize newSize).block live) := by
  by_cases frees : newSize = 0
  · simpa [Arena.resize, Block.afterResize, frees] using kept.free named
  · cases block with
    | none => simpa [Arena.resize, Block.afterResize, Block.without, frees] using kept.alloc newSize
    | some address =>
      have resized := kept.realloc (named address rfl) (Nat.pos_of_ne_zero frees)
      simpa [Arena.resize, frees] using resized

theorem reset (kept : Kept arena live) : Kept arena.reset [] where
  low := Nat.le_refl _
  high := Nat.le_trans kept.low kept.high
  word := kept.word
  home := kept.home
  placed := by simp
  apart := List.Pairwise.nil

theorem realloc_clear (kept : Kept arena live) {block oldSize newSize : Nat}
    (named : ⟨block, oldSize⟩ ∈ live) {move : Move}
    (moves : (arena.realloc block oldSize newSize).move = some move) : move.Clear := by
  have ends : block + oldSize ≤ arena.start := (kept.placed _ named).high
  rw [realloc_move moves]
  exact Or.inl (Nat.le_trans ends (Nat.le_add_right _ _))

theorem resize_clear (kept : Kept arena live) {block : Option Nat} {oldSize newSize : Nat}
    (named : ∀ address ∈ block, (⟨address, oldSize⟩ : Block) ∈ live) {move : Move}
    (moves : (arena.resize block oldSize newSize).move = some move) : move.Clear := by
  by_cases frees : newSize = 0
  · simp [Arena.resize, frees] at moves
  · cases block with
    | none => simp [Arena.resize, frees] at moves
    | some address =>
      have resized : (arena.realloc address oldSize newSize).move = some move := by
        simpa [Arena.resize, frees] using moves
      exact kept.realloc_clear (named address rfl) resized

end Kept

/-! The range stays: an arena differs from what it was in how far it is used. -/

theorem alloc_range (arena : Arena) (size : Nat) : (arena.alloc size).2.reset = arena.reset := by
  rw [Arena.alloc]
  split <;> rfl

theorem free_range (arena : Arena) (block : Option Nat) (size : Nat) :
    (arena.free block size).reset = arena.reset := by
  cases block with
  | none => rfl
  | some address =>
    rw [Arena.free]
    split <;> rfl

theorem realloc_range (arena : Arena) (block oldSize newSize : Nat) :
    (arena.realloc block oldSize newSize).arena.reset = arena.reset := by
  rw [Arena.realloc]
  split
  case isTrue same => rfl
  case isFalse differs =>
  split
  case isTrue last =>
    split
    · split <;> rfl
    · rfl
  case isFalse older =>
  split
  case isTrue shrinks => rfl
  case isFalse grows =>
  have range := alloc_range arena newSize
  rcases taken : arena.alloc newSize with ⟨_ | fresh, grown⟩
  · rfl
  · rw [taken] at range
    exact range

theorem resize_range (arena : Arena) (block : Option Nat) (oldSize newSize : Nat) :
    (arena.resize block oldSize newSize).arena.reset = arena.reset := by
  by_cases frees : newSize = 0
  · simpa [Arena.resize, frees] using free_range arena block oldSize
  · cases block with
    | none => simpa [Arena.resize, frees] using alloc_range arena newSize
    | some address => simpa [Arena.resize, frees] using realloc_range arena address oldSize newSize

/-- A request for more than can be granted is rounded to no less than that, and refused. -/
theorem size_le_granted {page size base : Nat} (real : page ≤ 2 ^ 63)
    (granted : Mapping.Granted ⟨base, Pages.round page (max size 1)⟩) :
    size ≤ Pages.round page (max size 1) := by
  have short : Pages.round page (max size 1) < 2 ^ 47 := granted.short
  have behind : page + Pages.round page (max size 1) < wordLimit := by
    simp only [wordLimit]
    omega
  have held : min size (wordLimit - 1) ≤ Pages.round page (max size 1) :=
    Pages.le_round behind (by omega) (by simp only [wordLimit]; omega)
  simp only [wordLimit] at held
  omega

theorem owned_of_reserve {machine after : Machine} {size : Nat} {answer : Except OsError Nat}
    (had : machine.reserveArena size answer = (.ok arena, after)) :
    ∃ base, answer = .ok base ∧
      arena = .owned ⟨base, Pages.round machine.page (max size 1)⟩ size := by
  cases answer with
  | error error => simp [Machine.reserveArena, Machine.map] at had
  | ok base =>
    have reserved := Except.ok.inj (congrArg Prod.fst had)
    exact ⟨base, rfl, reserved.symm⟩

theorem Made.kept (made : Made arena) : Kept arena [] := by
  suffices bounded : arena.Bounded from ⟨bounded, by simp, List.Pairwise.nil⟩
  cases made with
  | reserved page granted had =>
    obtain ⟨base, answered, rfl⟩ := owned_of_reserve had
    have grant := granted base answered
    have ends := Nat.add_le_add_left (size_le_granted page grant) base
    refine ⟨Nat.le_refl _, Nat.le_add_right _ _, Nat.lt_of_le_of_lt ends grant.fits, ?_⟩
    rintro mapping ⟨⟩
    exact ⟨Nat.le_refl _, ends⟩
  | borrowed base length fits =>
    exact ⟨Nat.le_refl _, Nat.le_add_right _ _, fits, by simp [Arena.borrowed]⟩

theorem Made.reset (made : Made arena) : arena.reset = arena := by
  cases made with
  | reserved page granted had =>
    obtain ⟨base, -, rfl⟩ := owned_of_reserve had
    rfl
  | borrowed base length fits => rfl

end Arena

end ArenaThreads
