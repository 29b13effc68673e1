import ArenaThreads.Proofs.Arena.Operations
/-!
What an arena refuses and what stays while it gives: it refuses exactly the requests that it has no
room for, and a block that no request names is kept, also when all room is taken at once.
-/

namespace ArenaThreads

namespace Arena

variable {arena : Arena} {live : List Block} {first other : Block} {block answer : Option Nat}
  {oldSize newSize size address : Nat}

def HasRoom (block : Option Nat) (oldSize newSize : Nat) (arena : Arena) : Prop :=
  match block with
  | none => arena.start + padding arena.start + newSize ≤ arena.limit
  | some address =>
    if address + oldSize = arena.start then address + newSize ≤ arena.limit
    else newSize ≤ oldSize ∨ arena.start + padding arena.start + newSize ≤ arena.limit

theorem Kept.first_fresh (kept : Kept arena (first :: live)) : first ∉ live := by
  intro member
  have apart := (List.pairwise_cons.mp kept.apart).1 first member
  have some := (kept.placed first List.mem_cons_self).some
  simp only [Block.Apart] at apart
  omega

theorem afterResize_cons (fresh : first ∉ live)
    (named : ∀ address ∈ block, (⟨address, oldSize⟩ : Block) ∈ live) :
    (Block.afterResize block oldSize newSize answer (first :: live)).Perm
      (first :: Block.afterResize block oldSize newSize answer live) := by
  have without : Block.without block oldSize (first :: live) =
      first :: Block.without block oldSize live := by
    cases block with
    | none => rfl
    | some address =>
      apply List.erase_cons_tail
      have differs : first ≠ ⟨address, oldSize⟩ := fun same => fresh (same ▸ named address rfl)
      simpa using differs
  unfold Block.afterResize
  rw [without]
  split
  · exact .rfl
  · cases answer with
    | none => exact .rfl
    | some place => exact .swap ..

theorem Kept.resize_cons (kept : Kept arena (first :: live)) (newSize : Nat)
    (named : ∀ address ∈ block, (⟨address, oldSize⟩ : Block) ∈ live) :
    Kept (arena.resize block oldSize newSize).arena
      (first :: Block.afterResize block oldSize newSize
        (arena.resize block oldSize newSize).block live) := by
  have further := kept.resize newSize fun address member =>
    List.mem_cons_of_mem first (named address member)
  exact further.perm (afterResize_cons kept.first_fresh named)

theorem alloc_none_iff (some : newSize ≠ 0) (real : arena.start ≠ 0) :
    (arena.alloc newSize).1 = none ↔
      ¬arena.start + padding arena.start + newSize ≤ arena.limit := by
  have fits := fits_iff newSize arena
  by_cases room : arena.fits newSize = true
  · rw [alloc_of_fits room]
    simp [(fits.mp room).2.2]
  · rw [alloc_of_not_fits (Bool.eq_false_iff.mpr room)]
    simpa [some, real] using mt fits.mpr room

/-- An arena refuses exactly what there is no room for. -/
theorem Kept.resize_none_iff (kept : Kept arena live) (some : newSize ≠ 0) (real : arena.start ≠ 0)
    (named : ∀ address ∈ block, (⟨address, oldSize⟩ : Block) ∈ live) :
    (arena.resize block oldSize newSize).block = none ↔ ¬arena.HasRoom block oldSize newSize := by
  cases block with
  | none =>
    simp only [Arena.resize, if_neg some]
    exact alloc_none_iff some real
  | some address =>
    have last := kept.isLast_iff (named address rfl)
    have ends := (kept.placed _ (named address rfl)).high
    have high := kept.high
    simp only [Arena.resize, if_neg some, HasRoom]
    rw [Arena.realloc]
    split
    case isTrue same =>
      subst same
      simp only [reduceCtorEq, false_iff, not_not]
      split <;> omega
    case isFalse differs =>
    by_cases behind : address + oldSize = arena.start
    · rw [if_pos (last.mpr behind), if_pos behind]
      split
      case isTrue grows =>
        split
        case isTrue full =>
          simp only [remaining] at full
          simp only [true_iff]
          omega
        case isFalse room =>
          simp only [remaining] at room
          simp only [reduceCtorEq, false_iff, not_not]
          omega
      case isFalse shrinks =>
        simp only [reduceCtorEq, false_iff, not_not]
        omega
    · rw [if_neg (mt last.mp behind), if_neg behind]
      split
      case isTrue shrinks =>
        simp only [reduceCtorEq, false_iff, not_not]
        exact .inl (Nat.le_of_lt shrinks)
      case isFalse grows =>
        have fresh := alloc_none_iff some real
        have larger : ¬newSize ≤ oldSize := by omega
        rw [or_iff_right larger, ← fresh]
        rcases arena.alloc newSize with ⟨_ | place, taken⟩ <;> simp

theorem Kept.advance {start : Nat} (kept : Kept arena live) (further : arena.start ≤ start)
    (bound : start ≤ arena.limit) : Kept { arena with start := start } live := by
  refine ⟨⟨Nat.le_trans kept.low further, bound, kept.word, kept.home⟩, ?_, kept.apart⟩
  intro block member
  have placed := kept.placed block member
  exact ⟨placed.some, placed.aligned, placed.low, Nat.le_trans placed.high further⟩

theorem takeAll_bound (low : arena.start ≤ arena.limit) :
    arena.start ≤ (arena.takeAll size).start ∧ (arena.takeAll size).start ≤ arena.limit := by
  rw [takeAll]
  split
  case isTrue fits =>
    obtain ⟨-, -, bound⟩ := (fits_iff size arena).mp fits
    have whole := Nat.div_mul_le_self (arena.remaining - padding arena.start - size) (stride size)
    rw [room, if_pos fits, Nat.add_sub_cancel]
    simp only [remaining] at whole ⊢
    omega
  case isFalse full => exact ⟨Nat.le_refl _, low⟩

theorem Kept.takeAll (kept : Kept arena live) (size : Nat) : Kept (arena.takeAll size) live := by
  have bound := @takeAll_bound arena size kept.high
  rw [Arena.takeAll] at bound ⊢
  split
  case isTrue fits =>
    rw [if_pos fits] at bound
    exact kept.advance bound.1 bound.2
  case isFalse full => exact kept

theorem takeAll_range (arena : Arena) (size : Nat) : (arena.takeAll size).reset = arena.reset := by
  rw [Arena.takeAll]
  split <;> rfl

def nth (index size : Nat) (arena : Arena) : Nat :=
  arena.start + padding arena.start + index * stride size

theorem nth_inside {index : Nat} (counted : index < arena.room size) :
    arena.start ≤ arena.nth index size ∧ arena.nth index size + size ≤ arena.limit := by
  by_cases fits : arena.fits size = true
  case neg => simp [room, fits] at counted
  case pos =>
  rw [room, if_pos fits] at counted
  obtain ⟨-, -, bound⟩ := (fits_iff size arena).mp fits
  have before : index * stride size ≤ arena.remaining - padding arena.start - size :=
    calc
      index * stride size ≤
          (arena.remaining - padding arena.start - size) / stride size * stride size :=
        Nat.mul_le_mul_right _ (Nat.le_of_lt_succ counted)
      _ ≤ _ := Nat.div_mul_le_self _ _
  simp only [nth, remaining] at before ⊢
  omega

theorem takeAll_full (size : Nat) (arena : Arena) : ((arena.takeAll size).alloc size).1 = none := by
  -- All the blocks that there is room for are one and then all the others.
  induction count : arena.room size generalizing arena with
  | zero =>
    have full : arena.fits size = false := by
      by_contra one
      have some := room_take (by simpa using one)
      omega
    rw [takeAll_of_not_fits full, alloc_of_not_fits full]
  | succ count ih =>
    have one : arena.fits size = true := by
      by_contra full
      rw [room_of_not_fits (by simpa using full)] at count
      omega
    rw [takeAll_take one]
    apply ih
    have taken := room_take one
    omega

theorem realloc_move_bound {place : Nat} {move : Move}
    (moves : (arena.realloc place oldSize newSize).move = some move) :
    arena.start ≤ move.target ∧ move.target + move.length ≤ arena.limit := by
  obtain rfl := realloc_move moves
  rw [Arena.realloc] at moves
  split at moves
  case isTrue same => cases moves
  case isFalse differs =>
  split at moves
  case isTrue last =>
    split at moves
    · split at moves <;> cases moves
    · cases moves
  case isFalse older =>
  split at moves
  case isTrue shrinks => cases moves
  case isFalse grows =>
  by_cases fits : arena.fits newSize = true
  · have bound := ((fits_iff newSize arena).mp fits).2.2
    dsimp only
    omega
  · rw [alloc_of_not_fits (Bool.eq_false_iff.mpr fits)] at moves
    cases moves

theorem resize_move_bound {move : Move}
    (moves : (arena.resize block oldSize newSize).move = some move) :
    arena.start ≤ move.target ∧ move.target + move.length ≤ arena.limit := by
  by_cases frees : newSize = 0
  · simp [Arena.resize, frees] at moves
  · cases block with
    | none => simp [Arena.resize, frees] at moves
    | some address =>
      simp only [Arena.resize, if_neg frees] at moves
      exact realloc_move_bound moves

end Arena

end ArenaThreads
