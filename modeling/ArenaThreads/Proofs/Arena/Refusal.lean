import ArenaThreads.Proofs.Arena.Outcomes
/-!
An arena refuses what it has no room for and nothing else, and a refusal leaves everything as it
was. Neither depends on how large a size is: no sum that is formed on the way is too large for a
word, and no more is ever taken away than there is.
-/

namespace ArenaThreads

namespace Arena

/-! The operations with sums that give nothing where they do not fit a word, and differences that
give nothing where more is taken away than there is -/

namespace Checked

def sum? (first second : Nat) : Option Nat :=
  if first + second < wordLimit then some (first + second) else none

def alloc (size : Nat) (arena : Arena) : Option (Option Nat × Arena) :=
  if size = 0 ∨ arena.start = 0 then some (none, arena)
  else do
    let remaining ← arena.limit.psub arena.start
    if remaining < padding arena.start then return (none, arena)
    let room ← remaining.psub (padding arena.start)
    if room < size then return (none, arena)
    let block ← sum? arena.start (padding arena.start)
    let start ← sum? block size
    return (some block, { arena with start := start })

def free (block : Option Nat) (size : Nat) (arena : Arena) : Option Arena :=
  match block with
  | none => some arena
  | some address => do
    let stop ← sum? address size
    return if stop = arena.start then { arena with start := address } else arena

def realloc (block oldSize newSize : Nat) (arena : Arena) : Option Resized :=
  if oldSize = newSize then some { block := some block, arena := arena }
  else do
    let stop ← sum? block oldSize
    if stop = arena.start then
      if oldSize < newSize then
        let grow ← newSize.psub oldSize
        let remaining ← arena.limit.psub arena.start
        if remaining < grow then return { block := none, arena := arena }
        let start ← sum? arena.start grow
        return { block := some block, arena := { arena with start := start } }
      else
        let shrink ← oldSize.psub newSize
        let start ← arena.start.psub shrink
        return { block := some block, arena := { arena with start := start } }
    else if newSize < oldSize then return { block := some block, arena := arena }
    else
      match ← alloc newSize arena with
      | (some fresh, grown) => return ⟨some fresh, grown, some ⟨block, fresh, oldSize⟩⟩
      | (none, _) => return { block := none, arena := arena }

def resize (block : Option Nat) (oldSize newSize : Nat) (arena : Arena) : Option Resized :=
  if newSize = 0 then do
    let back ← free block oldSize arena
    return { block := none, arena := back }
  else match block with
    | none => do
      let (fresh, grown) ← alloc newSize arena
      return { block := fresh, arena := grown }
    | some address => realloc address oldSize newSize arena

def resized (arena : Arena) : Request → Option Resized
  | .alloc size => (alloc size arena).map fun (block, arena) => { block, arena }
  | .free block size => (free block size arena).map fun back => { block := none, arena := back }
  | .realloc block oldSize newSize => realloc block oldSize newSize arena
  | .resize block oldSize newSize | .view block oldSize newSize =>
    resize block oldSize newSize arena
  | .reset => some { block := none, arena := arena.reset }

end Checked

/-- There is memory behind an arena: it has a range, and zero is the address of nothing. -/
def HasMemory (arena : Arena) : Prop := arena.isReserved = true ∧ arena.base ≠ 0

def Request.Asks : Request → Prop
  | .alloc _ | .realloc .. => True
  | .resize block _ newSize | .view block _ newSize => block = none ∨ newSize ≠ 0
  | .free .. | .reset => False

variable {arena : Arena} {live : List Block} {block : Block} {size place : Nat} {ledger : Ledger}
  {request : Request}

namespace Checked

theorem sum_exact {first second : Nat} (fits : first + second < wordLimit) :
    sum? first second = some (first + second) := by
  rw [sum?, if_pos fits]

theorem alloc_exact (bounded : arena.Bounded) (size : Nat) :
    alloc size arena = some (arena.alloc size) := by
  have word := bounded.word
  by_cases empty : size = 0 ∨ arena.start = 0
  · have full : arena.fits size = false := by
      rcases empty with zero | unreal <;> simp [fits, *]
    rw [alloc, if_pos empty, alloc_of_not_fits full]
  · obtain ⟨some, real⟩ := not_or.mp empty
    rw [alloc, if_neg empty, Nat.psub_eq_sub bounded.high]
    by_cases room : arena.fits size = true
    · obtain ⟨-, -, bound⟩ := (fits_iff size arena).mp room
      have padded : ¬arena.limit - arena.start < padding arena.start := by omega
      have wide : ¬arena.limit - arena.start - padding arena.start < size := by omega
      have enough := Nat.psub_eq_sub (Nat.not_lt.mp padded)
      have begins := sum_exact (show arena.start + padding arena.start < wordLimit by omega)
      have ends := sum_exact (show arena.start + padding arena.start + size < wordLimit by omega)
      rw [alloc_of_fits room]
      simp [padded, enough, wide, begins, ends, take]
    · rw [alloc_of_not_fits (Bool.eq_false_iff.mpr room)]
      have full := mt (fits_iff size arena).mpr room
      by_cases padded : arena.limit - arena.start < padding arena.start
      · simp [padded]
      · have narrow : arena.limit - arena.start - padding arena.start < size := by
          have high := bounded.high
          omega
        have enough := Nat.psub_eq_sub (Nat.not_lt.mp padded)
        simp [padded, enough, narrow]

theorem stop_exact (kept : Kept arena live) (named : block ∈ live) :
    sum? block.address block.size = some (block.address + block.size) := by
  have ends := (kept.placed block named).high
  exact sum_exact (Nat.lt_of_le_of_lt (Nat.le_trans ends kept.high) kept.word)

theorem free_exact (kept : Kept arena live) {block : Option Nat}
    (named : ∀ address ∈ block, (⟨address, size⟩ : Block) ∈ live) :
    free block size arena = some (arena.free block size) := by
  cases block with
  | none => rfl
  | some address =>
    have ends := stop_exact kept (named address rfl)
    have last := kept.isLast_iff (named address rfl)
    dsimp only at ends
    by_cases top : address + size = arena.start
    · simp [free, Arena.free, ends, last.mpr top, top]
    · simp [free, Arena.free, ends, Bool.eq_false_iff.mpr (mt last.mp top), top]

theorem realloc_exact (kept : Kept arena live) (named : block ∈ live) (size : Nat) :
    realloc block.address block.size size arena =
      some (arena.realloc block.address block.size size) := by
  have ends := (kept.placed block named).high
  have word := kept.word
  rw [realloc, Arena.realloc, stop_exact kept named, kept.isLast_eq named]
  by_cases same : block.size = size
  · rw [if_pos same, if_pos same]
  rw [if_neg same, if_neg same]
  by_cases last : block.address + block.size = arena.start
  · by_cases grows : block.size < size
    · rw [Nat.psub_eq_sub (Nat.le_of_lt grows), Nat.psub_eq_sub kept.high]
      by_cases full : arena.limit - arena.start < size - block.size
      · simp [Block.Last, last, grows, remaining, full]
      · have fits : arena.start + (size - block.size) < wordLimit := by
          have high := kept.high
          omega
        simp [Block.Last, last, grows, remaining, full, sum_exact fits]
    · have back : block.size - size ≤ arena.start := by omega
      rw [Nat.psub_eq_sub (Nat.not_lt.mp grows)]
      simp [Block.Last, last, grows, Nat.psub_eq_sub back]
  · by_cases shrinks : size < block.size
    · simp [Block.Last, last, shrinks]
    · rw [alloc_exact kept.toBounded]
      rcases arena.alloc size with ⟨_ | fresh, grown⟩ <;> simp [Block.Last, last, shrinks]

theorem resize_exact (kept : Kept arena live) {block : Option Nat}
    (named : ∀ address ∈ block, (⟨address, size⟩ : Block) ∈ live) (newSize : Nat) :
    resize block size newSize arena = some (arena.resize block size newSize) := by
  by_cases frees : newSize = 0
  · simp [resize, Arena.resize, frees, free_exact kept named]
  · cases block with
    | none => simp [resize, Arena.resize, frees, alloc_exact kept.toBounded]
    | some address =>
      simpa [resize, Arena.resize, frees] using realloc_exact kept (named address rfl) newSize

theorem resized_exact (kept : Kept arena live) (named : request.Names live) :
    resized arena request = some (request.resized arena) := by
  cases request with
  | alloc size => simp [resized, Request.resized, alloc_exact kept.toBounded]
  | free block size => simp [resized, Request.resized, free_exact kept named]
  | realloc block oldSize newSize => exact realloc_exact kept named.1 newSize
  | resize block oldSize newSize => exact resize_exact kept named newSize
  | view block oldSize newSize => exact resize_exact kept named newSize
  | reset => rfl

end Checked

/-! Memory behind an arena -/

theorem Kept.idle (kept : Kept arena live) (zero : arena.start = 0) : live = [] := by
  apply List.eq_nil_iff_forall_not_mem.mpr
  intro block member
  have placed := kept.placed block member
  have some := placed.some
  have high := placed.high
  omega

theorem Request.start_zero (kept : Kept arena live) (named : request.Names live)
    (zero : arena.start = 0) : (request.resized arena).arena.start = 0 := by
  have none (size : Nat) : arena.fits size = false := by simp [fits, zero]
  have idle := kept.idle zero
  subst idle
  have low := kept.low
  cases request with
  | alloc size => simp [resized, alloc_of_not_fits (none size), zero]
  | free block size =>
    cases block with
    | none => exact zero
    | some address => exact absurd (named address rfl) (by simp)
  | realloc block oldSize newSize => exact absurd named.1 (by simp)
  | resize block oldSize newSize | view block oldSize newSize =>
    cases block with
    | none =>
      by_cases frees : newSize = 0
      · simp [resized, Arena.resize, frees, Arena.free, zero]
      · simp [resized, Arena.resize, frees, alloc_of_not_fits (none newSize), zero]
    | some address => exact absurd (named address rfl) (by simp)
  | reset =>
    show arena.base = 0
    omega

theorem Ledger.Reached.start_zero (real : place ≠ 0) (reached : Reached place ledger)
    (zero : (ledger.arena place).base = 0) : (ledger.arena place).start = 0 := by
  induction reached with
  | made made => exact (congrArg Arena.start made.reset).symm.trans zero
  | @asked ledger request before named ih =>
    rw [arena_step real] at zero ⊢
    have range := congrArg Arena.base (request.range (ledger.arena place))
    exact request.start_zero (before.kept real) named (ih (range.symm.trans zero))
  | written memory before ih => exact ih zero
  | released before ih =>
    rw [arena, released_arena]
    rfl

theorem hasMemory_iff (bounded : arena.Bounded) : arena.HasMemory ↔ arena.base ≠ 0 := by
  have low := bounded.low
  have high := bounded.high
  simp only [HasMemory, isReserved, decide_eq_true_eq]
  omega

/-! Refusals -/

theorem alloc_refused (refused : (arena.alloc size).1 = none) :
    arena.alloc size = (none, arena) := by
  cases room : arena.fits size with
  | true =>
    rw [alloc_of_fits room] at refused
    cases refused
  | false => exact alloc_of_not_fits room

theorem Kept.realloc_refused (kept : Kept arena live) (named : block ∈ live)
    (refused : (arena.realloc block.address block.size size).block = none) :
    arena.realloc block.address block.size size = { block := none, arena := arena } := by
  have outcome := kept.reallocated named size
  generalize arena.realloc block.address block.size size = resized at outcome refused ⊢
  cases outcome with
  | overlong | crowded => rfl
  | _ => cases refused

theorem alloc_isSome_iff (bounded : arena.Bounded) (begun : arena.base = 0 → arena.start = 0)
    (size : Nat) : (arena.alloc size).1.isSome ↔
      1 ≤ size ∧ arena.HasMemory ∧ size + padding arena.start ≤ arena.remaining := by
  have low := bounded.low
  have high := bounded.high
  have given : (arena.alloc size).1.isSome ↔ arena.fits size = true := by
    cases room : arena.fits size with
    | true => simp [alloc_of_fits room]
    | false => simp [alloc_of_not_fits room]
  rw [given, fits_iff, hasMemory_iff bounded]
  simp only [remaining]
  omega

theorem Kept.realloc_shorter (kept : Kept arena live) (named : block ∈ live)
    (shorter : size ≤ block.size) :
    (arena.realloc block.address block.size size).block = some block.address := by
  have ends := (kept.placed block named).high
  have high := kept.high
  have outcome := kept.reallocated named size
  generalize arena.realloc block.address block.size size = resized at outcome ⊢
  cases outcome with
  | stretched | trimmed => rfl
  | overlong last full => omega
  | moved older longer | crowded older longer => omega

theorem Kept.realloc_last (kept : Kept arena live) (named : block ∈ live)
    (last : block.Last arena) (longer : block.size < size) :
    arena.realloc block.address block.size size =
      if size - block.size ≤ arena.remaining then
        { block := some block.address
          arena := { arena with start := arena.start + (size - block.size) } }
      else { block := none, arena := arena } := by
  have ends : block.address + block.size = arena.start := last
  have start : arena.start + (size - block.size) = block.address + size := by omega
  have left : arena.remaining = arena.limit - arena.start := rfl
  have outcome := kept.reallocated named size
  generalize arena.realloc block.address block.size size = resized at outcome ⊢
  rw [start]
  cases outcome with
  | stretched _ room => rw [if_pos (by omega)]
  | overlong _ full =>
    have high := kept.high
    rw [if_neg (by omega)]
  | trimmed older | moved older | crowded older => exact absurd last older

theorem Kept.realloc_older (kept : Kept arena live) (named : block ∈ live)
    (older : ¬block.Last arena) (longer : block.size < size) :
    arena.realloc block.address block.size size =
      if size + padding arena.start ≤ arena.remaining then
        let fresh := arena.start + padding arena.start
        ⟨some fresh, arena.take size, some ⟨block.address, fresh, block.size⟩⟩
      else { block := none, arena := arena } := by
  have placed := kept.placed block named
  have some := placed.some
  have ends := placed.high
  have left : arena.remaining = arena.limit - arena.start := rfl
  have fits := fits_iff size arena
  have outcome := kept.reallocated named size
  generalize arena.realloc block.address block.size size = resized at outcome ⊢
  cases outcome with
  | stretched last | overlong last => exact absurd last older
  | trimmed _ shorter => omega
  | moved _ _ room =>
    have bound := (fits.mp room).2.2
    rw [if_pos (by omega)]
  | crowded _ _ full =>
    have high := kept.high
    have narrow := mt fits.mpr (Bool.eq_false_iff.mp full)
    rw [if_neg (by omega)]

theorem Request.resized_refused (kept : Kept arena live) (named : request.Names live)
    (asks : request.Asks) (refused : (request.resized arena).block = none) :
    request.resized arena = { block := none, arena := arena } := by
  cases request with
  | alloc size =>
    have still := alloc_refused refused
    simp [resized, still]
  | free block size => cases asks
  | realloc block oldSize newSize => exact kept.realloc_refused named.1 refused
  | resize block oldSize newSize | view block oldSize newSize =>
    simp only [resized, Arena.resize] at refused ⊢
    by_cases frees : newSize = 0
    · have absent : block = none := asks.resolve_right (not_not.mpr frees)
      simp [frees, absent, Arena.free]
    · cases block with
      | none =>
        simp only [frees, if_false] at refused ⊢
        rw [alloc_refused refused]
      | some address =>
        simp only [frees, if_false] at refused ⊢
        exact kept.realloc_refused (named address rfl) refused
  | reset => cases asks

theorem perform_refused (real : place ≠ 0) (kept : Kept (ledger.arena place) ledger.live)
    (named : request.Names ledger.live) (asks : request.Asks)
    (refused : (request.perform place ledger.machine).1 = none) :
    (request.perform place ledger.machine).2 = ledger.machine := by
  rw [request.perform_eq real] at refused ⊢
  have still := request.resized_refused kept named asks refused
  rw [Ledger.arena] at still
  simp only [still, Machine.settleArena, Cells.set_self]

theorem Request.resized_view_none (arena : Arena) (size : Nat) :
    (Request.view none 0 size).resized arena = (Request.alloc size).resized arena := by
  by_cases nothing : size = 0
  · have refused : arena.fits size = false := by simp [fits, nothing]
    simp only [resized, alloc_of_not_fits refused]
    simp [Arena.resize, nothing, Arena.free]
  · simp [resized, Arena.resize, nothing]

/-- What is to be known about requests for memory at a place. The last block is one that ends where
the unused part begins; all others are older. -/
structure Refuses (place : Nat) (ledger : Ledger) : Prop where
  alloc : ∀ size, ((ledger.arena place).alloc size).1.isSome ↔
    1 ≤ size ∧ (ledger.arena place).HasMemory ∧
      size + padding (ledger.arena place).start ≤ (ledger.arena place).remaining
  shorter : ∀ block ∈ ledger.live, ∀ size ≤ block.size,
    ((ledger.arena place).realloc block.address block.size size).block = some block.address
  last : ∀ block ∈ ledger.live, block.Last (ledger.arena place) → ∀ size, block.size < size →
    (ledger.arena place).realloc block.address block.size size =
      if size - block.size ≤ (ledger.arena place).remaining then
        { block := some block.address
          arena := { ledger.arena place with
            start := (ledger.arena place).start + (size - block.size) } }
      else { block := none, arena := ledger.arena place }
  older : ∀ block ∈ ledger.live, ¬block.Last (ledger.arena place) → ∀ size, block.size < size →
    (ledger.arena place).realloc block.address block.size size =
      if size + padding (ledger.arena place).start ≤ (ledger.arena place).remaining then
        let fresh := (ledger.arena place).start + padding (ledger.arena place).start
        ⟨some fresh, (ledger.arena place).take size, some ⟨block.address, fresh, block.size⟩⟩
      else { block := none, arena := ledger.arena place }
  still : ∀ request : Request, request.Names ledger.live → request.Asks →
    (request.perform place ledger.machine).1 = none →
      (request.perform place ledger.machine).2 = ledger.machine
  views : ∀ block oldSize newSize,
    (Request.view block oldSize newSize).perform place ledger.machine =
      (Request.resize block oldSize newSize).perform place ledger.machine
  viewsNew : ∀ size, (Request.view none 0 size).perform place ledger.machine =
    (Request.alloc size).perform place ledger.machine
  viewsLive : ∀ block oldSize newSize, newSize ≠ 0 →
    (Request.view (some block) oldSize newSize).perform place ledger.machine =
      (Request.realloc block oldSize newSize).perform place ledger.machine
  exact : ∀ request : Request, request.Names ledger.live →
    Checked.resized (ledger.arena place) request = some (request.resized (ledger.arena place))

/-- However an arena has come to be as it is: it refuses exactly what it has no room for, and a
refusal has no effect. -/
theorem refuses_exactly (real : place ≠ 0) (reached : Ledger.Reached place ledger) :
    Refuses place ledger := by
  have kept := reached.kept real
  constructor
  · exact alloc_isSome_iff kept.toBounded (reached.start_zero real)
  · intro block live size shorter
    exact kept.realloc_shorter live shorter
  · intro block live last size longer
    exact kept.realloc_last live last longer
  · intro block live older size longer
    exact kept.realloc_older live older longer
  · intro request named asks refused
    exact perform_refused real kept named asks refused
  · intro block oldSize newSize
    simp only [Request.perform_eq real, Request.resized]
  · intro size
    rw [Request.perform_eq real, Request.perform_eq real, Request.resized_view_none]
  · intro block oldSize newSize some
    simp [Request.perform_eq real, Request.resized, Arena.resize, some]
  · intro request named
    exact Checked.resized_exact kept named

theorem refuses_exactly_skewed :
    let machine : Machine := { arenas := fun _ => .borrowed 65539 40 }
    let ledger : Ledger := Ledger.step 64 { machine } (.alloc 10)
    let released : Ledger := { machine := ledger.machine.releaseArena 64 }
    Refuses 64 ledger ∧ Refuses 64 released ∧ ((ledger.arena 64).alloc 19).1.isSome ∧
      ((ledger.arena 64).alloc 20).1 = none ∧ ((released.arena 64).alloc 1).1 = none := by
  intro machine ledger released
  have reached : Ledger.Reached 64 ledger :=
    .asked (.made (.borrowed 65539 40 (by decide))) trivial
  have refuses := refuses_exactly (by decide) reached
  have empty := refuses_exactly (by decide) reached.released
  have room : ((ledger.arena 64).alloc 19).1.isSome :=
    (refuses.alloc 19).mpr ⟨by decide, ⟨by decide, by decide⟩, by decide⟩
  exact ⟨refuses, empty, room, by decide, by decide⟩

end Arena

end ArenaThreads
