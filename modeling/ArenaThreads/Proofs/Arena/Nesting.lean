import ArenaThreads.Proofs.Arena.Outcomes
/-!
Blocks taken one inside the other and given back in the opposite order. A gap before a block is not
given back with it, and hides the block below, which then does not end where the unused part begins.
So the sizes alone tell what a nest leaves in use: nothing, if no block in it has a gap before it.
-/

namespace ArenaThreads

namespace Arena

structure Layer where
  before : Nat
  after : Nat
  deriving DecidableEq, Repr

/-- Takes a block of the first size, uses the arena in the same way for all other sizes, and gives
the block back. The layers, the outermost first; none where a block is refused. -/
def nest : List Nat → Arena → Option (List Layer × Arena)
  | [], arena => some ([], arena)
  | size :: rest, arena =>
    match arena.alloc size with
    | (none, _) => none
    | (some block, taken) =>
      (nest rest taken).map fun (layers, used) =>
        let back := used.free (some block) size
        (⟨arena.remaining, back.remaining⟩ :: layers, back)

def reach (position : Nat) : List Nat → Nat
  | [] => position
  | size :: rest => reach (position + padding position + size) rest

/-- What a nest leaves in use: the gap before its first block and, where the blocks inside leave
something, that and the block as well. -/
def leftover (position : Nat) : List Nat → Nat
  | [] => 0
  | size :: rest =>
    let inside := leftover (position + padding position + size) rest
    if inside = 0 then padding position else padding position + size + inside

def Seamless (position : Nat) (sizes : List Nat) : Prop :=
  sizes = [] ∨ position % alignment = 0 ∧ ∀ size ∈ sizes.dropLast, size % alignment = 0

instance (position : Nat) (sizes : List Nat) : Decidable (Seamless position sizes) :=
  inferInstanceAs (Decidable (_ ∨ _))

variable {arena back : Arena} {sizes rest : List Nat} {size : Nat} {layers : List Layer}

theorem padding_eq_zero_iff (position : Nat) : padding position = 0 ↔ position % alignment = 0 := by
  simp only [padding, alignment]
  omega

theorem seamless_cons (position size : Nat) (rest : List Nat) :
    Seamless position (size :: rest) ↔
      padding position = 0 ∧ Seamless (position + padding position + size) rest := by
  have behind : (position + padding position + size) % alignment = 0 ↔ size % alignment = 0 := by
    have aligned := aligned_add_padding position
    simp only [alignment] at aligned ⊢
    omega
  rw [padding_eq_zero_iff]
  cases rest with
  | nil => simp [Seamless]
  | cons next rest =>
    rw [Seamless, Seamless, behind]
    simp

theorem leftover_eq_zero_iff (position : Nat) (sizes : List Nat) :
    leftover position sizes = 0 ↔ Seamless position sizes := by
  induction sizes generalizing position with
  | nil => simp [leftover, Seamless]
  | cons size rest ih =>
    rw [seamless_cons, ← ih, leftover]
    by_cases quiet : leftover (position + padding position + size) rest = 0
    · simp [quiet]
    · simp [quiet]

theorem Bounded.alloc (bounded : arena.Bounded) {block : Nat} {taken : Arena}
    (given : arena.alloc size = (some block, taken)) :
    block = arena.start + padding arena.start ∧ taken = { arena with start := block + size } ∧
      taken.Bounded := by
  by_cases room : arena.fits size = true
  · rw [alloc_of_fits room] at given
    cases given
    have bound := ((fits_iff size arena).mp room).2.2
    have low := bounded.low
    exact ⟨rfl, rfl, ⟨by simp only [take]; omega, bound, bounded.word, bounded.home⟩⟩
  · rw [alloc_of_not_fits (Bool.eq_false_iff.mpr room)] at given
    cases given

theorem Bounded.lower (bounded : arena.Bounded) {start : Nat} (low : arena.base ≤ start)
    (back : start ≤ arena.start) : Bounded { arena with start := start } :=
  ⟨low, Nat.le_trans back bounded.high, bounded.word, bounded.home⟩

theorem free_behind (bounded : arena.Bounded) {block inside : Nat}
    (used : arena.start = block + size + inside) :
    arena.free (some block) size =
      { arena with start := if inside = 0 then block else block + size + inside } := by
  have high := bounded.high
  have word := bounded.word
  have fits : (block + size) % wordLimit = block + size := Nat.mod_eq_of_lt (by omega)
  by_cases quiet : inside = 0
  · have last : arena.isLast (some block) size = true := by
      simp [isLast, fits, used, quiet]
    simp [free, last, quiet]
  · have older : arena.isLast (some block) size = false := by
      simp only [isLast, Option.any_some, fits, used, decide_eq_false_iff_not]
      omega
    simp [free, older, quiet, ← used]

theorem nest_leaves (bounded : arena.Bounded) (nested : nest sizes arena = some (layers, back)) :
    back = { arena with start := arena.start + leftover arena.start sizes } ∧ back.Bounded := by
  induction sizes generalizing arena layers back with
  | nil =>
    cases nested
    exact ⟨rfl, bounded⟩
  | cons size rest ih =>
    rw [nest] at nested
    split at nested
    case h_1 refused => cases nested
    case h_2 block taken given =>
    obtain ⟨⟨inner, used⟩, inside, same⟩ := Option.map_eq_some_iff.mp nested
    obtain ⟨rfl, rfl, further⟩ := bounded.alloc given
    obtain ⟨rfl, kept⟩ := ih further inside
    cases same
    dsimp only at kept ⊢
    -- The block is the last one again only if those taken inside it have left nothing in use.
    rw [free_behind kept rfl, leftover]
    generalize leftover (arena.start + padding arena.start + size) rest = inside at kept ⊢
    have start : (if inside = 0 then arena.start + padding arena.start
          else arena.start + padding arena.start + size + inside) =
        arena.start + if inside = 0 then padding arena.start
          else padding arena.start + size + inside := by
      split <;> omega
    rw [start]
    refine ⟨rfl, kept.lower ?_ ?_⟩
    · exact Nat.le_trans bounded.low (Nat.le_add_right _ _)
    · dsimp only
      split <;> omega

theorem nest_layer (bounded : arena.Bounded) (nested : nest sizes arena = some (layers, back)) :
    layers.length = sizes.length ∧ ∀ index, ∀ layer ∈ layers[index]?,
      layer.before = arena.limit - reach arena.start (sizes.take index) ∧
      layer.after + leftover (reach arena.start (sizes.take index)) (sizes.drop index) =
        layer.before := by
  induction sizes generalizing arena layers back with
  | nil =>
    cases nested
    exact ⟨rfl, by simp⟩
  | cons size rest ih =>
    have left := nest_leaves bounded nested
    rw [nest] at nested
    split at nested
    case h_1 refused => cases nested
    case h_2 block taken given =>
    obtain ⟨⟨inner, used⟩, inside, same⟩ := Option.map_eq_some_iff.mp nested
    obtain ⟨rfl, rfl, further⟩ := bounded.alloc given
    obtain ⟨count, deeper⟩ := ih further inside
    cases same
    refine ⟨congrArg Nat.succ count, ?_⟩
    intro index layer there
    cases index with
    | zero =>
      cases there
      have high := left.2.high
      rw [left.1] at high ⊢
      refine ⟨rfl, ?_⟩
      simp only [remaining, List.take_zero, List.drop_zero, reach]
      dsimp only at high
      omega
    -- A layer further inside belongs to the nest of the other sizes, behind this block.
    | succ index => exact deeper index layer there

theorem Seamless.drop {position : Nat} (seamless : Seamless position sizes) (index : Nat) :
    Seamless (reach position (sizes.take index)) (sizes.drop index) := by
  induction sizes generalizing position index with
  | nil => simp [Seamless]
  | cons size rest ih =>
    cases index with
    | zero => exact seamless
    | succ index => exact ih ((seamless_cons _ _ _).mp seamless).2 index

structure Unwound (arena : Arena) (sizes : List Nat) (layers : List Layer)
    (back : Arena) : Prop where
  count : layers.length = sizes.length
  before : ∀ index, ∀ layer ∈ layers[index]?,
    layer.before = arena.limit - reach arena.start (sizes.take index)
  after : ∀ index, ∀ layer ∈ layers[index]?,
    layer.after + leftover (reach arena.start (sizes.take index)) (sizes.drop index) = layer.before
  restored : ∀ index, ∀ layer ∈ layers[index]?,
    layer.after = layer.before ↔ Seamless (reach arena.start (sizes.take index)) (sizes.drop index)
  law : (∀ layer ∈ layers, layer.after = layer.before) ↔ Seamless arena.start sizes
  whole : back.remaining = arena.remaining ↔ Seamless arena.start sizes

/-- However an arena has been used before: blocks taken one inside the other and given back in the
opposite order leave in it what their sizes tell. -/
theorem nest_unwinds {place : Nat} {ledger : Ledger} (real : place ≠ 0)
    (reached : Ledger.Reached place ledger)
    (nested : nest sizes (ledger.arena place) = some (layers, back)) :
    Unwound (ledger.arena place) sizes layers back := by
  have bounded := (reached.kept real).toBounded
  obtain ⟨count, each⟩ := nest_layer bounded nested
  have restored : ∀ index, ∀ layer ∈ layers[index]?, layer.after = layer.before ↔
      Seamless (reach (ledger.arena place).start (sizes.take index)) (sizes.drop index) := by
    intro index layer there
    have balance := (each index layer there).2
    rw [← leftover_eq_zero_iff]
    omega
  refine ⟨count, fun index layer there => (each index layer there).1,
    fun index layer there => (each index layer there).2, restored, ⟨?_, ?_⟩, ?_⟩
  · intro all
    cases sizes with
    | nil => exact Or.inl rfl
    | cons size rest =>
      cases layers with
      | nil => cases count
      | cons layer inner => exact (restored 0 layer rfl).mp (all layer List.mem_cons_self)
  · intro seamless layer member
    obtain ⟨index, there⟩ := List.getElem?_of_mem member
    exact (restored index layer there).mpr (seamless.drop index)
  · obtain ⟨left, kept⟩ := nest_leaves bounded nested
    have high := kept.high
    rw [left] at high ⊢
    rw [← leftover_eq_zero_iff]
    simp only [remaining] at high ⊢
    omega

theorem nest_unwinds_twice :
    let machine : Machine := { arenas := fun _ => .borrowed 65536 96 }
    let ledger : Ledger := Ledger.step 64 { machine } (.alloc 8)
    let first : List Layer := [⟨88, 88⟩, ⟨80, 80⟩, ⟨64, 64⟩]
    let second : List Layer := [⟨88, 64⟩, ⟨72, 64⟩, ⟨67, 64⟩]
    Unwound (ledger.arena 64) [8, 16, 5] first (ledger.arena 64) ∧
      Unwound (ledger.arena 64) [16, 5, 8] second ⟨65536, 65568, 65632, none⟩ := by
  intro machine ledger first second
  have reached : Ledger.Reached 64 ledger :=
    .asked (.made (.borrowed 65536 96 (by decide))) trivial
  exact ⟨nest_unwinds (by decide) reached (by decide),
    nest_unwinds (by decide) reached (by decide)⟩

theorem nested_bytes_not_restored :
    ¬∀ (place : Nat) (ledger : Ledger) (sizes : List Nat) (layers : List Layer) (back : Arena),
      place ≠ 0 → Ledger.Reached place ledger →
        nest sizes (ledger.arena place) = some (layers, back) →
          (∀ layer ∈ layers, layer.after = layer.before) ∧
            back.remaining = (ledger.arena place).remaining := by
  intro law
  have reached : Ledger.Reached 64 { machine := { arenas := fun _ => .borrowed 65536 64 } } :=
    .made (.borrowed 65536 64 (by decide))
  have restored := law 64 _ [1, 1] [⟨64, 56⟩, ⟨63, 56⟩] ⟨65536, 65544, 65600, none⟩ (by decide)
    reached (by decide)
  exact absurd restored.2 (by decide)

end Arena

end ArenaThreads
