import ArenaThreads.Proofs.Allocator.Client
/-!
What a request comes to, on the heap and in an arena alike: the ledger changes as it should, blocks
stay apart from each other, only the block that is asked for may move, and it takes its bytes along.
-/

namespace ArenaThreads

namespace Arena.Block

structure Spread (live : List Block) : Prop where
  some : ∀ block ∈ live, 0 < block.size
  apart : live.Pairwise Apart

variable {live after : List Block} {block other : Block} {had : Option Block} {size : Nat}
  {result : Option Nat}

instance : Std.Symm Apart := ⟨fun _ _ => apart_symm⟩

namespace Spread

theorem perm (spread : Spread live) (same : live.Perm after) : Spread after := by
  constructor
  · intro block member
    exact spread.some block (same.mem_iff.mpr member)
  · exact spread.apart.perm same apart_symm

theorem erase (spread : Spread live) (block : Block) : Spread (live.erase block) := by
  constructor
  · intro other member
    exact spread.some other (List.mem_of_mem_erase member)
  · exact spread.apart.sublist List.erase_sublist

theorem cons (spread : Spread live) (some : 0 < block.size) (apart : ∀ other ∈ live, block.Apart other) :
    Spread (block :: live) := by
  constructor
  · intro other member
    rcases List.mem_cons.mp member with rfl | older
    · exact some
    · exact spread.some other older
  · exact List.pairwise_cons.mpr ⟨apart, spread.apart⟩

theorem apart_of_ne (spread : Spread live) (mine : block ∈ live) (theirs : other ∈ live)
    (different : block ≠ other) : block.Apart other :=
  spread.apart.forall mine theirs different

theorem size_eq (spread : Spread live) (mine : block ∈ live) (theirs : other ∈ live)
    (same : other.address = block.address) : other.size = block.size := by
  by_contra different
  have apart := spread.apart_of_ne mine theirs fun equal => different (equal ▸ rfl)
  have some := spread.some block mine
  have others := spread.some other theirs
  simp only [Apart] at apart
  omega

end Spread

theorem mem_without_of_ne (had : Option Block) (listed : block ∈ live) (other : had ≠ some block) :
    block ∈ without (had.map Block.address) ((had.map Block.size).getD 0) live := by
  cases had with
  | none => exact listed
  | some mine =>
    apply (List.mem_erase_of_ne _).mpr listed
    intro same
    exact other (congrArg Option.some same.symm)

theorem named (listed : ∀ block ∈ had, block ∈ live) :
    ∀ address ∈ had.map Block.address, (⟨address, (had.map Block.size).getD 0⟩ : Block) ∈ live := by
  cases had with
  | none => simp
  | some block =>
    rintro address ⟨⟩
    exact listed block rfl

theorem without_spread (had : Option Block) (spread : Spread live) :
    Spread (without (had.map Block.address) ((had.map Block.size).getD 0) live) := by
  cases had with
  | none => exact spread
  | some mine => exact spread.erase mine

/-- A request for the block that somebody has, if any, has come to this result, these live blocks and
these bytes. -/
structure Served (had : Option Block) (size : Nat) (result : Option Nat) (live after : List Block)
    (before bytes : Memory) : Prop where
  ledger : after.Perm (afterRequest had size result live)
  spread : Spread after
  zero : size = 0 → result = none
  others : ∀ block ∈ live, had ≠ some block → block.SameBytes before bytes
  moved : ∀ block ∈ had, ∀ fresh ∈ renewed size result had, ∀ i, i < min block.size fresh.size →
    bytes (fresh.address + i) = before (block.address + i)

theorem renewed_zero (result : Option Nat) (had : Option Block) : renewed 0 result had = none :=
  if_pos rfl

theorem renewed_refused (had : Option Block) (real : size ≠ 0) : renewed size none had = had :=
  if_neg real

theorem renewed_given (had : Option Block) (real : size ≠ 0) (fresh : Nat) :
    renewed size (some fresh) had = some ⟨fresh, size⟩ :=
  if_neg real

namespace Served

variable {before bytes : Memory}

theorem refuse (spread : Spread live) (real : size ≠ 0) :
    Served had size none live live before before := by
  constructor
  · rw [afterRequest, afterResize, if_neg real]
  · exact spread
  · intro _
    rfl
  · intro block listed other i inside
    rfl
  · intro block mine fresh theirs i inside
    rw [renewed_refused had real] at theirs
    cases (Option.mem_def.mp mine).symm.trans theirs
    rfl

theorem place {fresh : Nat} (spread : Spread live) (positive : 0 < size)
    (apart : ∀ other ∈ without (had.map Block.address) ((had.map Block.size).getD 0) live,
      Apart ⟨fresh, size⟩ other)
    (others : ∀ block ∈ live, had ≠ some block → block.SameBytes before bytes)
    (moved : ∀ block ∈ had, ∀ i, i < min block.size size →
      bytes (fresh + i) = before (block.address + i)) :
    Served had size (some fresh) live
      (⟨fresh, size⟩ :: without (had.map Block.address) ((had.map Block.size).getD 0) live)
      before bytes := by
  have real : size ≠ 0 := Nat.pos_iff_ne_zero.mp positive
  constructor
  · rw [afterRequest, afterResize, if_neg real]
  · exact (without_spread had spread).cons positive apart
  · intro zero
    exact absurd zero real
  · exact others
  · intro block mine given same
    rw [renewed_given had real] at same
    cases same
    exact moved block mine

end Served

end Arena.Block

open Arena (Block)

variable {live : List Block} {had : Option Block} {size : Nat} {machine : Machine}
  {answers : HeapAnswers}

/-! The heap -/

namespace Heap

inductive Asks : Option Block → Nat → Request → Prop
  | refused {had : Option Block} {size : Nat} (real : size ≠ 0) : Asks had size (.settled none)
  | nothing : Asks none 0 (.settled none)
  | allocate {size : Nat} (fits : isSize size = true) : Asks none size (.allocate size)
  | deallocate (block : Block) : Asks (some block) 0 (.deallocate block.address block.size)
  | same (block : Block) (positive : 0 < block.size) :
    Asks (some block) block.size (.settled (some block.address))
  | reallocate {size : Nat} (block : Block) (fits : isSize size = true) :
    Asks (some block) size (.reallocate block.address block.size size)

theorem size_positive (fits : isSize size = true) : 0 < size := by
  simp only [isSize, Bool.and_eq_true, decide_eq_true_eq] at fits
  exact fits.1

theorem request_asks (sized : ∀ block ∈ had, isSize block.size = true) (size : Nat) :
    Asks had size (requestFor had size) := by
  cases had with
  | none =>
    by_cases fits : isSize size = true
    · have asked : requestFor none size = .allocate size := by simp [requestFor, request, fits]
      rw [asked]
      exact .allocate fits
    · have asked : requestFor none size = .settled none := by simp [requestFor, request, fits]
      rw [asked]
      by_cases zero : size = 0
      · subst zero
        exact .nothing
      · exact .refused zero
  | some block =>
    have whole := sized block rfl
    by_cases zero : size = 0
    · subst zero
      have asked : requestFor (some block) 0 = .deallocate block.address block.size := by
        simp [requestFor, request, whole]
      rw [asked]
      exact .deallocate block
    · by_cases same : block.size = size
      · subst same
        have asked : requestFor (some block) block.size = .settled (some block.address) := by
          simp [requestFor, request, zero]
        rw [asked]
        exact .same block (size_positive whole)
      · by_cases fits : isSize size = true
        · have asked : requestFor (some block) size =
              .reallocate block.address block.size size := by
            simp [requestFor, request, zero, same, whole, fits]
          rw [asked]
          exact .reallocate block fits
        · have asked : requestFor (some block) size = .settled none := by
            simp [requestFor, request, zero, same, fits]
          rw [asked]
          exact .refused zero

theorem Asks.exact {request : Request} (asks : Asks had size request) (spread : Block.Spread live)
    (listed : ∀ block ∈ had, block ∈ live) : request.Exact live := by
  have named (block : Block) (mine : block ∈ had) :
      0 < block.size ∧ block ∈ live ∧
        ∀ other ∈ live, other.address = block.address → other.size = block.size := by
    have member := listed block mine
    refine ⟨spread.some block member, member, ?_⟩
    intro other theirs same
    exact spread.size_eq member theirs same
  cases asks with
  | refused | nothing | allocate | same => trivial
  | deallocate block => exact named block rfl
  | reallocate block fits =>
    obtain ⟨positive, member, sizes⟩ := named block rfl
    exact ⟨positive, size_positive fits, member, sizes⟩

theorem Asks.sized {request : Request} (asks : Asks had size request)
    (sized : ∀ block ∈ live, isSize block.size = true) :
    ∀ block ∈ request.book answers live, isSize block.size = true := by
  have given (fresh : Nat) (rest : List Block) (fits : isSize size = true)
      (fewer : ∀ block ∈ rest, block ∈ live) :
      ∀ block ∈ (⟨fresh, size⟩ : Block) :: rest, isSize block.size = true := by
    intro block member
    rcases List.mem_cons.mp member with rfl | older
    · exact fits
    · exact sized block (fewer block older)
  cases asks with
  | refused | nothing | same => exact sized
  | allocate fits =>
    simp only [Request.book]
    cases answers size with
    | none => exact sized
    | some fresh => exact given fresh live fits fun _ member => member
  | deallocate block =>
    intro other member
    exact sized other (List.mem_of_mem_erase member)
  | reallocate block fits =>
    simp only [Request.book]
    cases answers size with
    | none => exact sized
    | some fresh => exact given fresh _ fits fun _ member => List.mem_of_mem_erase member

theorem Asks.served {request : Request} (asks : Asks had size request) (spread : Block.Spread live)
    (listed : ∀ block ∈ had, block ∈ live) (lawful : request.Lawful answers live) :
    Block.Served had size (machine.heapRequest request answers).1 live (request.book answers live)
      machine.memory (machine.heapRequest request answers).2.memory := by
  have still (block : Block) : block.SameBytes machine.memory machine.memory := fun _ _ => rfl
  cases asks with
  | refused real => exact .refuse spread real
  | nothing => exact ⟨List.Perm.refl _, spread, fun _ => rfl, fun block _ _ => still block, nofun⟩
  | allocate fits =>
    simp only [Machine.heapRequest, Request.book]
    cases answered : answers size with
    | none => exact .refuse spread (Nat.pos_iff_ne_zero.mp (size_positive fits))
    | some fresh =>
      apply @Block.Served.place _ none _ _ _ _ spread (size_positive fits) (lawful fresh answered)
      · intro block _ _
        exact still block
      · simp
  | deallocate block =>
    constructor
    · exact List.Perm.refl _
    · exact spread.erase _
    · intro _
      rfl
    · intro other _ _
      exact still other
    · intro other _ fresh same
      cases same
  | same block positive =>
    have real := Nat.pos_iff_ne_zero.mp positive
    constructor
    · simp only [Block.afterRequest, Block.afterResize, if_neg real]
      exact List.perm_cons_erase (listed block rfl)
    · exact spread
    · intro zero
      exact absurd zero real
    · intro other _ _
      exact still other
    · intro other mine fresh same i inside
      rw [Machine.heapRequest, Block.renewed_given _ real] at same
      cases mine
      cases same
      rfl
  | reallocate block fits =>
    have positive := size_positive fits
    simp only [Machine.heapRequest, Request.book]
    cases answered : answers size with
    | none => exact .refuse spread (Nat.pos_iff_ne_zero.mp positive)
    | some fresh =>
      have apart := lawful fresh answered
      apply @Block.Served.place _ (some block) _ _ _ _ spread positive apart
      · intro other member different i inside
        have theirs := apart other (Block.mem_without_of_ne (some block) member different)
        simp only [Block.Apart] at theirs
        apply Memory.write_outside
        omega
      · rintro other ⟨⟩ i inside
        apply (Memory.write_inside _ _ (Nat.le_add_right fresh i) (by omega)).trans
        rw [Nat.add_sub_cancel_left]
        rfl

end Heap

/-! Arenas -/

namespace Arena

variable {arena : Arena}

theorem realloc_outcome (arena : Arena) (block oldSize newSize : Nat) :
    (arena.realloc block oldSize newSize).move = none ∧
        (∀ fresh ∈ (arena.realloc block oldSize newSize).block, fresh = block) ∨
      oldSize < newSize ∧
        (arena.realloc block oldSize newSize).block = some (arena.start + padding arena.start) ∧
        (arena.realloc block oldSize newSize).move =
          some ⟨block, arena.start + padding arena.start, oldSize⟩ := by
  rw [Arena.realloc]
  split
  case isTrue same => simp
  case isFalse differs =>
  split
  case isTrue last =>
    split
    · split <;> simp
    · simp
  case isFalse older =>
  split
  case isTrue shrinks => simp
  case isFalse grows =>
  by_cases room : arena.fits newSize = true
  · rw [alloc_of_fits room]
    exact Or.inr ⟨by omega, rfl, rfl⟩
  · rw [alloc_of_not_fits (Bool.eq_false_iff.mpr room)]
    simp

def Resized.bytes (memory : Memory) (resized : Resized) : Memory :=
  match resized.move with
  | none => memory
  | some move => memory.copy move.source move.target move.length

theorem realloc_spares {mine other : Block} (inside : other.address + other.size ≤ arena.start)
    (memory : Memory) :
    other.SameBytes memory ((arena.realloc mine.address mine.size size).bytes memory) := by
  rw [Resized.bytes]
  rcases realloc_outcome arena mine.address mine.size size with ⟨stays, -⟩ | ⟨-, -, moves⟩
  · rw [stays]
    exact fun _ _ => rfl
  · rw [moves]
    intro i low
    apply Memory.write_outside
    dsimp only
    omega

theorem realloc_carries {mine fresh : Block} (real : size ≠ 0) (memory : Memory)
    (given : fresh ∈ Block.renewed size (arena.realloc mine.address mine.size size).block
      (some mine)) {i : Nat} (low : i < min mine.size fresh.size) :
    (arena.realloc mine.address mine.size size).bytes memory (fresh.address + i) =
      memory (mine.address + i) := by
  rw [Resized.bytes]
  rcases realloc_outcome arena mine.address mine.size size with ⟨stays, same⟩ | ⟨grows, block, moves⟩
  · rw [stays]
    cases result : (arena.realloc mine.address mine.size size).block with
    | none =>
      rw [result, Block.renewed_refused _ real] at given
      cases given
      rfl
    | some address =>
      rw [result, Block.renewed_given _ real] at given
      cases given
      rw [same address result]
  · rw [block, Block.renewed_given _ real] at given
    cases given
    rw [moves]
    dsimp only at low ⊢
    rw [Memory.copy, Memory.write_inside _ _ (Nat.le_add_right _ i) (by omega),
      Nat.add_sub_cancel_left]

/-- An arena serves every request for a block that is live. -/
theorem Kept.served (kept : Kept arena live) (size : Nat) (listed : ∀ block ∈ had, block ∈ live)
    (memory : Memory) :
    Block.Served had size
      (arena.resize (had.map Block.address) ((had.map Block.size).getD 0) size).block live
      (Block.afterRequest had size
        (arena.resize (had.map Block.address) ((had.map Block.size).getD 0) size).block live)
      memory
      ((arena.resize (had.map Block.address) ((had.map Block.size).getD 0) size).bytes memory) := by
  have after := kept.resize size (Block.named listed)
  have spread : Block.Spread (Block.afterRequest had size
      (arena.resize (had.map Block.address) ((had.map Block.size).getD 0) size).block live) :=
    ⟨fun block member => (after.placed block member).some, after.apart⟩
  by_cases frees : size = 0
  · subst frees
    refine ⟨List.Perm.refl _, spread, fun _ => rfl, fun block _ _ _ _ => rfl, ?_⟩
    intro block _ fresh same
    cases same
  · cases had with
    | none =>
      refine ⟨List.Perm.refl _, spread, fun zero => absurd zero frees, ?_, by simp⟩
      simp only [Arena.resize, if_neg frees]
      exact fun block _ _ _ _ => rfl
    | some mine =>
      have resized : arena.resize (some mine.address) mine.size size =
          arena.realloc mine.address mine.size size := by simp [Arena.resize, frees]
      refine ⟨List.Perm.refl _, spread, fun zero => absurd zero frees, ?_, ?_⟩
      · intro block member _
        simp only [Option.map_some, Option.getD_some, resized]
        exact realloc_spares (kept.placed block member).high memory
      · rintro block ⟨⟩ fresh given i low
        simp only [Option.map_some, Option.getD_some, resized] at given ⊢
        exact realloc_carries frees memory given low

end Arena

end ArenaThreads
