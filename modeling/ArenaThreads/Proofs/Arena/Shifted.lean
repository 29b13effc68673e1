import ArenaThreads.Proofs.Arena.Room
/-!
Two arenas at the same distance from two bases. They answer the same requests with blocks at the same
distance, and stay at that distance.
-/

namespace ArenaThreads

def Shift (base further one other : Nat) : Prop := other + base = one + further

namespace Arena

variable {arena next other : Arena} {base further floor size oldSize newSize address : Nat}
  {block : Option Nat}

/-! Arenas whose blocks all lie above a floor -/

def Covers (floor : Nat) (block : Option Nat) (size : Nat) (arena : Arena) : Prop :=
  ∀ address ∈ block, floor ≤ address ∧ address + size ≤ arena.limit

/-- The unused part begins above the floor, and the range ends inside the address space. -/
structure Above (floor : Nat) (arena : Arena) : Prop where
  low : floor ≤ arena.start
  high : arena.start ≤ arena.limit
  word : arena.limit < wordLimit

theorem covers_none : arena.Covers floor none size :=
  fun address member => absurd member (Option.not_mem_none address)

theorem reset_limit (range : next.reset = arena.reset) : next.limit = arena.limit := by
  simp only [reset, mk.injEq] at range
  exact range.2.2.1

namespace Above

theorem advance (kept : Above floor arena) (range : next.reset = arena.reset)
    (low : floor ≤ next.start) (high : next.start ≤ arena.limit) : Above floor next := by
  have ends := reset_limit range
  exact ⟨low, by omega, by rw [ends]; exact kept.word⟩

theorem isLast_iff (kept : Above floor arena) (inside : address + size ≤ arena.limit) :
    arena.isLast (some address) size = true ↔ address + size = arena.start := by
  have word := Nat.lt_of_le_of_lt inside kept.word
  simp [isLast, Nat.mod_eq_of_lt word]

theorem alloc (kept : Above floor arena) (size : Nat) :
    Above floor (arena.alloc size).2 ∧ arena.Covers floor (arena.alloc size).1 size := by
  by_cases fits : arena.fits size = true
  · obtain ⟨-, -, bound⟩ := (fits_iff size arena).mp fits
    have low := kept.low
    rw [alloc_of_fits fits]
    refine ⟨kept.advance rfl ?_ bound, ?_⟩
    · simp only [take]
      omega
    · rintro _ ⟨⟩
      omega
  · rw [alloc_of_not_fits (Bool.eq_false_iff.mpr fits)]
    exact ⟨kept, covers_none⟩

theorem free (kept : Above floor arena) (inside : arena.Covers floor block size) :
    Above floor (arena.free block size) := by
  cases block with
  | none => exact kept
  | some address =>
    obtain ⟨above, ends⟩ := inside address rfl
    have high := kept.high
    rw [Arena.free]
    split
    case isTrue last =>
      have place := (kept.isLast_iff ends).mp last
      exact kept.advance rfl above (by dsimp only; omega)
    case isFalse older => exact kept

theorem realloc (kept : Above floor arena) (above : floor ≤ address)
    (ends : address + oldSize ≤ arena.limit) (newSize : Nat) :
    Above floor (arena.realloc address oldSize newSize).arena ∧
      arena.Covers floor (arena.realloc address oldSize newSize).block newSize := by
  have low := kept.low
  have high := kept.high
  have last := kept.isLast_iff ends
  have taken := kept.alloc newSize
  rw [Arena.realloc]
  split
  case isTrue same =>
    subst same
    refine ⟨kept, ?_⟩
    rintro _ ⟨⟩
    exact ⟨above, ends⟩
  case isFalse differs =>
  split
  case isTrue final =>
    have place := last.mp final
    split
    case isTrue grows =>
      split
      case isTrue full => exact ⟨kept, covers_none⟩
      case isFalse room =>
        simp only [remaining] at room
        refine ⟨kept.advance rfl (by dsimp only; omega) (by dsimp only; omega), ?_⟩
        rintro _ ⟨⟩
        omega
    case isFalse shrinks =>
      refine ⟨kept.advance rfl (by dsimp only; omega) (by dsimp only; omega), ?_⟩
      rintro _ ⟨⟩
      omega
  case isFalse older =>
  split
  case isTrue shrinks =>
    refine ⟨kept, ?_⟩
    rintro _ ⟨⟩
    omega
  case isFalse grows =>
    generalize arena.alloc newSize = outcome at taken ⊢
    rcases outcome with ⟨_ | fresh, grown⟩
    · exact ⟨kept, covers_none⟩
    · exact taken

theorem resize (kept : Above floor arena) (inside : arena.Covers floor block oldSize)
    (newSize : Nat) :
    Above floor (arena.resize block oldSize newSize).arena ∧
      arena.Covers floor (arena.resize block oldSize newSize).block newSize := by
  rw [Arena.resize.eq_def]
  split
  case isTrue frees => exact ⟨kept.free inside, covers_none⟩
  case isFalse keeps =>
    cases block with
    | none => exact kept.alloc newSize
    | some address =>
      obtain ⟨above, ends⟩ := inside address rfl
      exact kept.realloc above ends newSize

theorem takeAll (kept : Above floor arena) (size : Nat) : Above floor (arena.takeAll size) := by
  have bound := @takeAll_bound arena size kept.high
  exact kept.advance (takeAll_range arena size) (Nat.le_trans kept.low bound.1) bound.2

end Above

/-! Arenas at two bases -/

/-- The range and the part in use are at the same distance from the two bases, which leave as much to
the alignment of blocks; the floor is below all blocks of the first arena, and a real address at
both bases. -/
structure Level (base further floor : Nat) (arena other : Arena) : Prop where
  start : Shift base further arena.start other.start
  limit : Shift base further arena.limit other.limit
  aligned : further % alignment = base % alignment
  real : 0 < floor
  reals : base < floor + further
  above : Above floor arena
  word : other.limit < wordLimit

structure Move.Shifted (base further : Nat) (move other : Move) : Prop where
  source : Shift base further move.source other.source
  target : Shift base further move.target other.target
  length : other.length = move.length

structure Resized.Shifted (base further : Nat) (resized other : Resized) : Prop where
  block : Option.Rel (Shift base further) resized.block other.block
  start : Shift base further resized.arena.start other.arena.start
  move : Option.Rel (Move.Shifted base further) resized.move other.move

namespace Level

variable {after : Arena} {moved : Nat} {target : Option Nat}

theorem advance (level : Level base further floor arena other) (range : next.reset = arena.reset)
    (ranges : after.reset = other.reset) (start : Shift base further next.start after.start)
    (kept : Above floor next) : Level base further floor next after := by
  have ends := reset_limit range
  have both := reset_limit ranges
  refine ⟨start, ?_, level.aligned, level.real, level.reals, kept, ?_⟩
  · rw [ends, both]
    exact level.limit
  · rw [both]
    exact level.word

theorem padding (level : Level base further floor arena other) :
    Arena.padding other.start = Arena.padding arena.start := by
  have start := level.start
  have aligned := level.aligned
  simp only [Shift, Arena.padding, alignment] at *
  omega

theorem fits (level : Level base further floor arena other) (size : Nat) :
    other.fits size = arena.fits size := by
  have start := level.start
  have limit := level.limit
  have real := level.real
  have reals := level.reals
  have low := level.above.low
  have padding := level.padding
  rw [Bool.eq_iff_iff, fits_iff, fits_iff, padding]
  simp only [Shift] at *
  omega

theorem alloc (level : Level base further floor arena other) (size : Nat) :
    Option.Rel (Shift base further) (arena.alloc size).1 (other.alloc size).1 ∧
      Shift base further (arena.alloc size).2.start (other.alloc size).2.start := by
  have start := level.start
  have padding := level.padding
  have same := level.fits size
  by_cases fits : arena.fits size = true
  · rw [alloc_of_fits fits, alloc_of_fits (same.trans fits)]
    constructor
    · apply Option.Rel.some
      simp only [Shift] at *
      omega
    · simp only [Shift, take] at *
      omega
  · have full := Bool.eq_false_iff.mpr fits
    rw [alloc_of_not_fits full, alloc_of_not_fits (same.trans full)]
    exact ⟨.none, start⟩

theorem isLast (level : Level base further floor arena other)
    (inside : address + size ≤ arena.limit) (shift : Shift base further address moved) :
    other.isLast (some moved) size = arena.isLast (some address) size := by
  have start := level.start
  have limit := level.limit
  have word := level.word
  have within : moved + size < wordLimit := by
    simp only [Shift] at *
    omega
  rw [Bool.eq_iff_iff, level.above.isLast_iff inside]
  simp only [Arena.isLast, Option.any_some, decide_eq_true_eq, Nat.mod_eq_of_lt within]
  simp only [Shift] at *
  omega

theorem realloc (level : Level base further floor arena other)
    (inside : address + oldSize ≤ arena.limit) (shift : Shift base further address moved)
    (newSize : Nat) :
    (arena.realloc address oldSize newSize).Shifted base further
      (other.realloc moved oldSize newSize) := by
  have start := level.start
  have limit := level.limit
  have last := level.isLast inside shift
  have place := level.above.isLast_iff inside
  obtain ⟨fresh, grown⟩ := level.alloc newSize
  have left : other.remaining = arena.remaining := by
    simp only [remaining, Shift] at *
    omega
  rw [Arena.realloc, Arena.realloc, last, left]
  split
  case isTrue same => exact ⟨.some shift, start, .none⟩
  case isFalse differs =>
  split
  case isTrue final =>
    have ends := place.mp final
    split
    case isTrue grows =>
      split
      case isTrue full => exact ⟨.none, start, .none⟩
      case isFalse room =>
        refine ⟨.some shift, ?_, .none⟩
        simp only [Shift] at *
        omega
    case isFalse shrinks =>
      refine ⟨.some shift, ?_, .none⟩
      simp only [Shift] at *
      omega
  case isFalse older =>
  split
  case isTrue shrinks => exact ⟨.some shift, start, .none⟩
  case isFalse grows =>
    generalize arena.alloc newSize = one at fresh grown ⊢
    generalize other.alloc newSize = both at fresh grown ⊢
    rcases one with ⟨block, one⟩
    rcases both with ⟨target, both⟩
    cases fresh with
    | none => exact ⟨.none, start, .none⟩
    | some fresh => exact ⟨.some fresh, grown, .some ⟨shift, fresh, rfl⟩⟩

theorem resize (level : Level base further floor arena other)
    (inside : arena.Covers floor block oldSize)
    (shift : Option.Rel (Shift base further) block target) (newSize : Nat) :
    (arena.resize block oldSize newSize).Shifted base further
        (other.resize target oldSize newSize) ∧
      Level base further floor (arena.resize block oldSize newSize).arena
        (other.resize target oldSize newSize).arena := by
  have start := level.start
  have shifted : (arena.resize block oldSize newSize).Shifted base further
      (other.resize target oldSize newSize) := by
    unfold Arena.resize
    split
    case isTrue frees =>
      refine ⟨.none, ?_, .none⟩
      cases shift with
      | none => exact start
      | @some address moved shift =>
        simp only [Arena.free, level.isLast (inside address rfl).2 shift]
        split
        · exact shift
        · exact start
    case isFalse keeps =>
      cases shift with
      | none =>
        obtain ⟨fresh, grown⟩ := level.alloc newSize
        exact ⟨fresh, grown, .none⟩
      | @some address moved shift => exact level.realloc (inside address rfl).2 shift newSize
  refine ⟨shifted, level.advance (resize_range ..) (resize_range ..) shifted.start ?_⟩
  exact (level.above.resize inside newSize).1

theorem takeAll (level : Level base further floor arena other) (size : Nat) :
    other.room size = arena.room size ∧
      Level base further floor (arena.takeAll size) (other.takeAll size) := by
  have start := level.start
  have limit := level.limit
  have padding := level.padding
  have left : other.remaining = arena.remaining := by
    simp only [remaining, Shift] at *
    omega
  have count : other.room size = arena.room size := by
    rw [room, room, level.fits, left, padding]
  refine ⟨count, level.advance (takeAll_range ..) (takeAll_range ..) ?_ (level.above.takeAll size)⟩
  rw [Arena.takeAll, Arena.takeAll, level.fits, count, padding]
  split
  · simp only [Shift] at *
    omega
  · exact start

end Level

end Arena

end ArenaThreads
