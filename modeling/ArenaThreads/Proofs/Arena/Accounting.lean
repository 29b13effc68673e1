import ArenaThreads.Proofs.Arena.Outcomes
/-!
The space in use of an arena, entry by entry. An account is kept by a few rules from the requests
that are made and whether they are granted, and knows nothing of the arena. It says all the same
where each block lies and how much is in use, so the arena can tell from an address alone whether a
block is the last one and as long as the space that it has.
-/

namespace ArenaThreads

namespace Arena

/-- A stretch of the part in use: a live block's, by its address, or nobody's. -/
structure Entry where
  size : Nat
  holder : Option Nat
  deriving DecidableEq, Repr

def Entry.vacated (address : Nat) (entry : Entry) : Entry :=
  if entry.holder = some address then { entry with holder := none } else entry

structure Account where
  base : Nat
  entries : List Entry := []
  deriving DecidableEq, Repr

namespace Account

def total (entries : List Entry) : Nat := (entries.map Entry.size).sum

def used (account : Account) : Nat := total account.entries

def top (account : Account) : Nat := account.base + account.used

def IntactTop (block : Block) (account : Account) : Prop :=
  account.entries.head? = some ⟨block.size, some block.address⟩

instance (block : Block) (account : Account) : Decidable (account.IntactTop block) :=
  inferInstanceAs (Decidable (_ = _))

def push (entry : Entry) (account : Account) : Account :=
  { account with entries := entry :: account.entries }

/-- A new block on top, behind a dead entry where it needs padding. -/
def place (size : Nat) (account : Account) : Account :=
  let gap := padding account.top
  let padded := if gap = 0 then account else account.push ⟨gap, none⟩
  padded.push ⟨size, some padded.top⟩

def vacate (address : Nat) (account : Account) : Account :=
  { account with entries := account.entries.map (Entry.vacated address) }

def pop (account : Account) : Account := { account with entries := account.entries.tail }

def giveBack (block : Block) (account : Account) : Account :=
  if account.IntactTop block then account.pop else account.vacate block.address

/-- The entry of an intact top gets the new size. Another block keeps its entry as it shrinks, and
gets a new one as it grows. -/
def resize (block : Block) (size : Nat) (account : Account) : Account :=
  if account.IntactTop block then account.pop.push ⟨size, some block.address⟩
  else if size ≤ block.size then account
  else (account.vacate block.address).place size

def record (granted : Bool) (account : Account) : Request → Account
  | .alloc size => if granted then account.place size else account
  | .free block size =>
    match block with
    | none => account
    | some address => account.giveBack ⟨address, size⟩
  | .realloc block oldSize newSize =>
    if granted then account.resize ⟨block, oldSize⟩ newSize else account
  | .resize block oldSize newSize | .view block oldSize newSize =>
    match block with
    | none => if granted then account.place newSize else account
    | some address =>
      if newSize = 0 then account.giveBack ⟨address, oldSize⟩
      else if granted then account.resize ⟨address, oldSize⟩ newSize
      else account
  | .reset => { account with entries := [] }

def follow (place : Nat) : List Request → Ledger → Account → Account
  | [], _, account => account
  | request :: rest, ledger, account =>
    follow place rest (ledger.step place request)
      (account.record (request.perform place ledger.machine).1.isSome request)

def Located (base : Nat) : List Entry → Prop
  | [] => True
  | entry :: older =>
    0 < entry.size ∧ (∀ address ∈ entry.holder, address = base + total older) ∧ Located base older

structure Reflects (arena : Arena) (live : List Block) (account : Account) : Prop where
  base : account.base = arena.base
  top : account.top = arena.start
  located : Located account.base account.entries
  held : ∀ block ∈ live, ∃ entry ∈ account.entries, entry.holder = some block.address
  known : ∀ entry ∈ account.entries, ∀ address ∈ entry.holder,
    ∃ block ∈ live, block.address = address ∧ block.size ≤ entry.size

/-- An entry that is no live block's in its whole size: dead, or of a block that has been cut short
below others. -/
def Frozen (live : List Block) (entry : Entry) : Prop :=
  ∀ address ∈ entry.holder, (⟨address, entry.size⟩ : Block) ∉ live

def Retains (live after : List Block) (entries later : List Entry) : Prop :=
  ∀ newer entry older, entries = newer ++ entry :: older → Frozen live entry →
    ∃ further same below, later = further ++ same :: below ∧ same.size = entry.size ∧
      below.map Entry.size = older.map Entry.size ∧
        (same.holder = entry.holder ∨ same.holder = none) ∧ Frozen after same

variable {arena : Arena} {live after : List Block} {block : Block} {account : Account}
  {entry : Entry} {entries later older : List Entry} {base size : Nat}

theorem total_cons (entry : Entry) (entries : List Entry) :
    total (entry :: entries) = entry.size + total entries := by
  simp [total]

theorem vacated_size (address : Nat) (entry : Entry) :
    (entry.vacated address).size = entry.size := by
  rw [Entry.vacated]
  split <;> rfl

theorem vacated_or (address : Nat) (entry : Entry) :
    (entry.vacated address).holder = entry.holder ∨ (entry.vacated address).holder = none := by
  rw [Entry.vacated]
  split
  case isTrue own => exact .inr rfl
  case isFalse foreign => exact .inl rfl

theorem vacated_holder {address other : Nat} :
    other ∈ (entry.vacated address).holder ↔ other ∈ entry.holder ∧ other ≠ address := by
  rw [Entry.vacated]
  split
  case isTrue own =>
    simp only [own, Option.mem_def, reduceCtorEq, Option.some.injEq, false_iff, not_and, not_not]
    exact fun same => same.symm
  case isFalse foreign =>
    simp only [Option.mem_def, iff_self_and]
    rintro held rfl
    exact foreign held

theorem vacated_map_size (address : Nat) (entries : List Entry) :
    (entries.map (Entry.vacated address)).map Entry.size = entries.map Entry.size := by
  rw [List.map_map]
  exact List.map_congr_left fun entry _ => vacated_size address entry

theorem total_vacated (address : Nat) (entries : List Entry) :
    total (entries.map (Entry.vacated address)) = total entries := by
  rw [total, vacated_map_size, total]

theorem top_push (entry : Entry) (account : Account) :
    (account.push entry).top = account.top + entry.size := by
  simp only [top, used, push, total_cons]
  omega

theorem top_vacate (address : Nat) (account : Account) :
    (account.vacate address).top = account.top := by
  simp only [top, used, vacate, total_vacated]

namespace Located

theorem mem (located : Located base entries) (member : entry ∈ entries) :
    0 < entry.size ∧ ∀ address ∈ entry.holder, address + entry.size ≤ base + total entries := by
  induction entries with
  | nil => cases member
  | cons first older ih =>
    obtain ⟨some, place, below⟩ := located
    rw [total_cons]
    rcases List.mem_cons.mp member with rfl | deeper
    · refine ⟨some, fun address held => ?_⟩
      have begins := place address held
      omega
    · obtain ⟨bytes, inside⟩ := ih below deeper
      refine ⟨bytes, fun address held => ?_⟩
      have ends := inside address held
      omega

theorem split {newer : List Entry} (located : Located base (newer ++ entry :: older)) :
    ∀ address ∈ entry.holder, address = base + total older := by
  induction newer with
  | nil => exact located.2.1
  | cons first newer ih => exact ih located.2.2

theorem vacate (located : Located base entries) (address : Nat) :
    Located base (entries.map (Entry.vacated address)) := by
  induction entries with
  | nil => trivial
  | cons first older ih =>
    obtain ⟨some, place, below⟩ := located
    refine ⟨by rw [vacated_size]; exact some, ?_, ih below⟩
    intro other held
    rw [total_vacated]
    exact place other (vacated_holder.mp held).1

end Located

/-! What is frozen stays -/

namespace Retains

theorem refl (live : List Block) (entries : List Entry) : Retains live live entries entries :=
  fun newer entry older whole frozen => ⟨newer, entry, older, whole, rfl, rfl, .inl rfl, frozen⟩

theorem trans {between : List Block} {middle : List Entry}
    (first : Retains live between entries middle) (second : Retains between after middle later) :
    Retains live after entries later := by
  intro newer entry older whole frozen
  obtain ⟨further, same, below, split, size, sizes, holder, still⟩ :=
    first newer entry older whole frozen
  obtain ⟨topmost, final, lowest, parts, length, lengths, last, fixed⟩ :=
    second further same below split still
  refine ⟨topmost, final, lowest, parts, length.trans size, lengths.trans sizes, ?_, fixed⟩
  rcases last with held | dead
  · rw [held]
    exact holder
  · exact .inr dead

theorem live_only (still : ∀ entry ∈ entries, Frozen live entry → Frozen after entry) :
    Retains live after entries entries := by
  rintro newer entry older rfl frozen
  exact ⟨newer, entry, older, rfl, rfl, rfl, .inl rfl, still entry (by simp) frozen⟩

theorem push (entry : Entry) (entries : List Entry) (live : List Block) :
    Retains live live entries (entry :: entries) := by
  rintro newer old older rfl frozen
  exact ⟨entry :: newer, old, older, rfl, rfl, rfl, .inl rfl, frozen⟩

theorem pop (holder : block ∈ live) (entries : List Entry) :
    Retains live (live.erase block) (⟨block.size, some block.address⟩ :: entries) entries := by
  intro newer entry older whole frozen
  cases newer with
  | nil =>
    -- The topmost entry is the block's own and has its size, so it is not frozen.
    cases whole
    exact absurd holder (frozen block.address rfl)
  | cons first newer =>
    cases whole
    exact ⟨newer, entry, older, rfl, rfl, rfl, .inl rfl,
      fun address held member => frozen address held (List.mem_of_mem_erase member)⟩

theorem vacate (block : Block) (live : List Block) (entries : List Entry) :
    Retains live (live.erase block) entries (entries.map (Entry.vacated block.address)) := by
  rintro newer entry older rfl frozen
  refine ⟨newer.map (Entry.vacated block.address), entry.vacated block.address,
    older.map (Entry.vacated block.address), by simp, vacated_size _ _, vacated_map_size _ _,
    vacated_or _ _, ?_⟩
  intro address held member
  rw [vacated_size] at member
  exact frozen address (vacated_holder.mp held).1 (List.mem_of_mem_erase member)

end Retains

/-! What each change to the arena is in the account -/

/-- An account that has been carried on says of the arena what is in use, and what was frozen in it
has stayed. -/
structure Carried (live : List Block) (account : Account) (arena : Arena) (after : List Block)
    (next : Account) : Prop where
  reflects : Reflects arena after next
  retains : Retains live after account.entries next.entries

namespace Carried

variable {next last : Account} {between : List Block}

theorem refl (reflects : Reflects arena live account) : Carried live account arena live account :=
  ⟨reflects, Retains.refl live account.entries⟩

theorem trans {changed : Arena} (first : Carried live account arena between next)
    (second : Carried between next changed after last) :
    Carried live account changed after last :=
  ⟨second.reflects, first.retains.trans second.retains⟩

end Carried

namespace Reflects

theorem entry_of (reflects : Reflects arena live account) (kept : Kept arena live)
    (named : block ∈ live) :
    ∃ entry ∈ account.entries, entry.holder = some block.address ∧ block.size ≤ entry.size := by
  obtain ⟨entry, member, holder⟩ := reflects.held block named
  obtain ⟨other, theirs, place, bound⟩ := reflects.known entry member block.address holder
  cases kept.same_block named theirs place
  exact ⟨entry, member, holder, bound⟩

theorem intactTop_iff (reflects : Reflects arena live account) (kept : Kept arena live)
    (named : block ∈ live) : account.IntactTop block ↔ block.Last arena := by
  have top : account.base + total account.entries = arena.start := reflects.top
  have located := reflects.located
  constructor
  · intro intact
    obtain ⟨older, whole⟩ := List.head?_eq_some_iff.mp intact
    rw [whole, total_cons] at top
    rw [whole] at located
    have place : block.address = account.base + total older := located.2.1 block.address rfl
    show block.address + block.size = arena.start
    dsimp only at top
    omega
  · intro last
    have ends : block.address + block.size = arena.start := last
    obtain ⟨entry, member, holder, bound⟩ := reflects.entry_of kept named
    obtain ⟨newest, older, whole⟩ := List.exists_cons_of_ne_nil (List.ne_nil_of_mem member)
    rw [whole, total_cons] at top
    rw [whole] at located member
    rcases List.mem_cons.mp member with rfl | deeper
    · have place := located.2.1 block.address holder
      have size : entry.size = block.size := by omega
      rw [IntactTop, whole, List.head?_cons, ← size, ← holder]
    · -- An entry further below ends where a newer one begins, and so does its block at the latest.
      have some := located.1
      have inside := (located.2.2.mem deeper).2 block.address holder
      omega

theorem push_gap (reflects : Reflects arena live account) {gap : Nat} (bytes : 0 < gap) :
    Carried live account { arena with start := arena.start + gap } live
      (account.push ⟨gap, none⟩) := by
  constructor
  case retains => exact Retains.push _ _ _
  case reflects =>
    constructor
    case base => exact reflects.base
    case top => rw [top_push, reflects.top]
    case located => exact ⟨bytes, by simp, reflects.located⟩
    case held =>
      intro block named
      obtain ⟨entry, member, holder⟩ := reflects.held block named
      exact ⟨entry, List.mem_cons_of_mem _ member, holder⟩
    case known =>
      intro entry member
      rcases List.mem_cons.mp member with rfl | older
      · simp
      · exact reflects.known entry older

theorem push_block (reflects : Reflects arena live account) (bytes : 0 < size) :
    Carried live account { arena with start := arena.start + size } (⟨arena.start, size⟩ :: live)
      (account.push ⟨size, some arena.start⟩) := by
  have top : account.base + total account.entries = arena.start := reflects.top
  constructor
  case retains =>
    apply Retains.trans (Retains.live_only ?_) (Retains.push _ _ _)
    intro entry member frozen address holder fresh
    rcases List.mem_cons.mp fresh with same | before
    · -- An old entry has a byte, so it does not begin where everything in use ends.
      cases same
      obtain ⟨some, inside⟩ := reflects.located.mem member
      have ends := inside arena.start holder
      omega
    · exact frozen address holder before
  case reflects =>
    constructor
    case base => exact reflects.base
    case top => rw [top_push, reflects.top]
    case located =>
      refine ⟨bytes, ?_, reflects.located⟩
      rintro address ⟨⟩
      exact top.symm
    case held =>
      intro block named
      rcases List.mem_cons.mp named with rfl | before
      · exact ⟨_, List.mem_cons_self, rfl⟩
      · obtain ⟨entry, member, holder⟩ := reflects.held block before
        exact ⟨entry, List.mem_cons_of_mem _ member, holder⟩
    case known =>
      intro entry member address holder
      rcases List.mem_cons.mp member with rfl | older
      · cases holder
        exact ⟨_, List.mem_cons_self, rfl, Nat.le_refl size⟩
      · obtain ⟨block, named, place, bound⟩ := reflects.known entry older address holder
        exact ⟨block, List.mem_cons_of_mem _ named, place, bound⟩

theorem vacate (reflects : Reflects arena live account) (kept : Kept arena live)
    (named : block ∈ live) :
    Carried live account arena (live.erase block) (account.vacate block.address) := by
  constructor
  case retains => exact Retains.vacate _ _ _
  case reflects =>
    constructor
    case base => exact reflects.base
    case top => rw [top_vacate, reflects.top]
    case located => exact reflects.located.vacate _
    case held =>
      intro other theirs
      obtain ⟨entry, listed, holder⟩ := reflects.held other (List.mem_of_mem_erase theirs)
      have foreign := kept.elsewhere named theirs
      exact ⟨_, List.mem_map_of_mem listed, vacated_holder.mpr ⟨holder, foreign⟩⟩
    case known =>
      intro entry member address holder
      obtain ⟨old, listed, rfl⟩ := List.mem_map.mp member
      obtain ⟨held, foreign⟩ := vacated_holder.mp holder
      obtain ⟨other, theirs, place, bound⟩ := reflects.known old listed address held
      have others : other ∈ live.erase block := by
        apply (List.mem_erase_of_ne ?_).mpr theirs
        rintro rfl
        exact foreign place.symm
      rw [vacated_size]
      exact ⟨other, others, place, bound⟩

theorem pop (reflects : Reflects arena live account) (kept : Kept arena live)
    (named : block ∈ live) (intact : account.IntactTop block) :
    Carried live account { arena with start := block.address } (live.erase block) account.pop := by
  obtain ⟨older, whole⟩ := List.head?_eq_some_iff.mp intact
  have below : account.pop.entries = older := by rw [Account.pop, whole, List.tail_cons]
  have located := reflects.located
  rw [whole] at located
  have place : block.address = account.base + total older := located.2.1 block.address rfl
  constructor
  case retains =>
    rw [below, whole]
    exact Retains.pop named older
  case reflects =>
    constructor
    case base => exact reflects.base
    case top =>
      show account.base + total account.pop.entries = block.address
      rw [below, place]
    case located =>
      show Located account.base account.pop.entries
      rw [below]
      exact located.2.2
    case held =>
      intro other theirs
      obtain ⟨entry, member, holder⟩ := reflects.held other (List.mem_of_mem_erase theirs)
      rw [whole] at member
      rcases List.mem_cons.mp member with rfl | deeper
      · have same : block.address = other.address := Option.some.inj holder
        exact absurd same.symm (kept.elsewhere named theirs)
      · rw [below]
        exact ⟨entry, deeper, holder⟩
    case known =>
      intro entry member address holder
      rw [below] at member
      have listed : entry ∈ account.entries := by
        rw [whole]
        exact List.mem_cons_of_mem _ member
      obtain ⟨other, theirs, begins, bound⟩ := reflects.known entry listed address holder
      have others : other ∈ live.erase block := by
        apply (List.mem_erase_of_ne ?_).mpr theirs
        rintro rfl
        -- An entry below ends where the topmost one begins, and has a byte.
        obtain ⟨some, inside⟩ := located.2.2.mem member
        have ends := inside address holder
        omega
      exact ⟨other, others, begins, bound⟩

theorem trim (reflects : Reflects arena live account) (kept : Kept arena live)
    (named : block ∈ live) (shorter : size ≤ block.size) :
    Carried live account arena (⟨block.address, size⟩ :: live.erase block) account := by
  constructor
  case retains =>
    apply Retains.live_only
    intro entry member frozen address holder cut
    rcases List.mem_cons.mp cut with same | before
    · -- The block has become as long as its entry only if it was so before.
      cases same
      obtain ⟨other, theirs, place, bound⟩ := reflects.known entry member block.address holder
      cases kept.same_block named theirs place
      have length : entry.size = block.size := by omega
      have gone := frozen block.address holder
      rw [length] at gone
      exact gone named
    · exact frozen address holder (List.mem_of_mem_erase before)
  case reflects =>
    constructor
    case base => exact reflects.base
    case top => exact reflects.top
    case located => exact reflects.located
    case held =>
      intro other theirs
      rcases List.mem_cons.mp theirs with rfl | before
      · exact reflects.held block named
      · exact reflects.held other (List.mem_of_mem_erase before)
    case known =>
      intro entry member address holder
      obtain ⟨other, theirs, place, bound⟩ := reflects.known entry member address holder
      by_cases mine : other = block
      · subst mine
        exact ⟨_, List.mem_cons_self, place, Nat.le_trans shorter bound⟩
      · have others := (List.mem_erase_of_ne mine).mpr theirs
        exact ⟨other, List.mem_cons_of_mem _ others, place, bound⟩

theorem place (reflects : Reflects arena live account) (bytes : 0 < size) :
    Carried live account (arena.take size) (⟨arena.start + padding arena.start, size⟩ :: live)
      (account.place size) := by
  have top : account.top = arena.start := reflects.top
  by_cases aligned : padding arena.start = 0
  · have placed : account.place size = account.push ⟨size, some arena.start⟩ := by
      simp only [Account.place, top, aligned, if_true]
    have taken : arena.take size = { arena with start := arena.start + size } := by
      simp only [take, aligned, Nat.add_zero]
    rw [placed, taken, aligned]
    exact reflects.push_block bytes
  · have padded := reflects.push_gap (Nat.pos_of_ne_zero aligned)
    have placed : account.place size = (account.push ⟨padding arena.start, none⟩).push
        ⟨size, some (arena.start + padding arena.start)⟩ := by
      simp only [Account.place, top, aligned, if_false, top_push]
    rw [placed]
    exact padded.trans (padded.reflects.push_block bytes)

theorem alloc (reflects : Reflects arena live account) (size : Nat) :
    Carried live account (arena.alloc size).2
      (Block.afterResize none 0 size (arena.alloc size).1 live)
      (if (arena.alloc size).1.isSome then account.place size else account) := by
  by_cases room : arena.fits size = true
  · have positive := ((fits_iff size arena).mp room).1
    rw [alloc_of_fits room, Block.afterResize, if_neg positive]
    exact reflects.place (Nat.pos_of_ne_zero positive)
  · rw [alloc_of_not_fits (Bool.eq_false_iff.mpr room)]
    simpa [Block.afterResize, Block.without] using Carried.refl reflects

theorem giveBack (reflects : Reflects arena live account) (kept : Kept arena live)
    (named : block ∈ live) :
    Carried live account (arena.free (some block.address) block.size) (live.erase block)
      (account.giveBack block) := by
  have top := reflects.intactTop_iff kept named
  rw [Arena.free, kept.isLast_eq named, Account.giveBack]
  by_cases last : block.Last arena
  · simp only [last, decide_true, if_true, if_pos (top.mpr last)]
    exact reflects.pop kept named (top.mpr last)
  · simp only [last, decide_false, Bool.false_eq_true, if_false, if_neg (mt top.mp last)]
    exact reflects.vacate kept named

theorem resize (reflects : Reflects arena live account) (kept : Kept arena live)
    (named : block ∈ live) (bytes : 0 < size) {outcome : Resized}
    (came : Reallocated arena block size outcome) :
    Carried live account outcome.arena
      (Block.afterResize (some block.address) block.size size outcome.block live)
      (if outcome.block.isSome then account.resize block size else account) := by
  have top := reflects.intactTop_iff kept named
  have positive : size ≠ 0 := Nat.pos_iff_ne_zero.mp bytes
  simp only [Block.afterResize, if_neg positive, Block.without]
  cases came with
  | stretched last room =>
    have back := reflects.pop kept named (top.mpr last)
    simp only [Option.isSome_some, if_true, Account.resize, if_pos (top.mpr last)]
    exact back.trans (back.reflects.push_block bytes)
  | overlong | crowded => exact Carried.refl reflects
  | trimmed older shorter =>
    simp only [Option.isSome_some, if_true, Account.resize, if_neg (mt top.mp older),
      if_pos shorter]
    exact reflects.trim kept named shorter
  | moved older longer room =>
    have left := reflects.vacate kept named
    simp only [Option.isSome_some, if_true, Account.resize, if_neg (mt top.mp older),
      if_neg (Nat.not_le.mpr longer)]
    exact left.trans (left.reflects.place bytes)

theorem record (reflects : Reflects arena live account) (kept : Kept arena live)
    {request : Request} (named : request.Names live) (lasting : request ≠ .reset) :
    Carried live account (request.resized arena).arena
      (request.book (request.resized arena).block live)
      (account.record (request.resized arena).block.isSome request) := by
  have resized {block : Option Nat} {oldSize newSize : Nat}
      (mine : ∀ address ∈ block, (⟨address, oldSize⟩ : Block) ∈ live) :
      Carried live account (arena.resize block oldSize newSize).arena
        (Block.afterResize block oldSize newSize (arena.resize block oldSize newSize).block live)
        (account.record (arena.resize block oldSize newSize).block.isSome
          (.resize block oldSize newSize)) := by
    cases block with
    | none =>
      by_cases nothing : newSize = 0
      · subst nothing
        simpa [Arena.resize, Arena.free, Block.afterResize, Block.without, Account.record] using
          Carried.refl reflects
      · simpa [Arena.resize, nothing, Account.record, Block.afterResize, Block.without] using
          reflects.alloc newSize
    | some address =>
      have there := mine address rfl
      by_cases back : newSize = 0
      · subst back
        exact reflects.giveBack kept there
      · have came := kept.reallocated there newSize
        have carried := reflects.resize kept there (Nat.pos_of_ne_zero back) came
        simpa only [Arena.resize, Account.record, if_neg back] using carried
  cases request with
  | alloc size => exact reflects.alloc size
  | free block size =>
    cases block with
    | none => exact Carried.refl reflects
    | some address => exact reflects.giveBack kept (named address rfl)
  | realloc block oldSize newSize =>
    exact reflects.resize kept named.1 named.2 (kept.reallocated named.1 newSize)
  | resize block oldSize newSize => exact resized named
  | view block oldSize newSize => exact resized named
  | reset => exact absurd rfl lasting

theorem emptied (reflects : Reflects arena live account) :
    Reflects arena.reset [] { account with entries := [] } :=
  ⟨reflects.base, reflects.base, trivial, by simp, by simp⟩

theorem step {place : Nat} {ledger : Ledger} {request : Request} (real : place ≠ 0)
    (kept : Kept (ledger.arena place) ledger.live)
    (reflects : Reflects (ledger.arena place) ledger.live account)
    (named : request.Names ledger.live) :
    Reflects ((ledger.step place request).arena place) (ledger.step place request).live
        (account.record (request.perform place ledger.machine).1.isSome request) ∧
      (request ≠ .reset → Retains ledger.live (ledger.step place request).live account.entries
        (account.record (request.perform place ledger.machine).1.isSome request).entries) := by
  have granted : (request.perform place ledger.machine).1 =
      (request.resized (ledger.arena place)).block := by
    rw [Request.perform_eq real]
    rfl
  rw [Ledger.arena_step real, Ledger.step_eq real, granted]
  by_cases lasting : request = .reset
  · subst lasting
    exact ⟨reflects.emptied, fun others => absurd rfl others⟩
  · have carried := reflects.record kept named lasting
    exact ⟨carried.reflects, fun _ => carried.retains⟩

theorem follow {place : Nat} {requests : List Request} {ledger : Ledger} (real : place ≠ 0)
    (kept : Kept (ledger.arena place) ledger.live)
    (reflects : Reflects (ledger.arena place) ledger.live account)
    (named : Ledger.NamedRun place requests ledger) :
    Reflects ((ledger.run place requests).arena place) (ledger.run place requests).live
        (account.follow place requests ledger) ∧
      (.reset ∉ requests → Retains ledger.live (ledger.run place requests).live account.entries
        (account.follow place requests ledger).entries) := by
  -- What is frozen is followed from request to request, so none of them may be a reset.
  induction requests generalizing ledger account with
  | nil => exact ⟨reflects, fun _ => Retains.refl _ _⟩
  | cons request rest ih =>
    obtain ⟨names, others⟩ := named
    have further : Kept ((ledger.step place request).arena place)
        (ledger.step place request).live := by
      rw [Ledger.arena_step real, Ledger.step_eq real]
      exact request.kept kept names
    obtain ⟨step, retains⟩ := reflects.step real kept names
    obtain ⟨after, stays⟩ := ih further step others
    refine ⟨after, fun lasting => ?_⟩
    obtain ⟨first, last⟩ := not_or.mp (mt List.mem_cons.mpr lasting)
    exact (retains fun reset => first reset.symm).trans (stays last)

end Reflects

structure Accounts (arena : Arena) (live : List Block) (account : Account) : Prop where
  used : arena.used = account.used
  start : arena.start = arena.base + account.used
  entries : ∀ newer entry older, account.entries = newer ++ entry :: older →
    0 < entry.size ∧ ∀ address ∈ entry.holder, address = arena.base + total older ∧
      ∃ block ∈ live, block.address = address ∧ block.size ≤ entry.size
  blocks : ∀ block ∈ live, ∃ newer entry older, account.entries = newer ++ entry :: older ∧
    entry.holder = some block.address ∧ block.address = arena.base + total older
  last : ∀ block ∈ live,
    arena.isLast (some block.address) block.size = decide (account.IntactTop block)

theorem Reflects.accounts (reflects : Reflects arena live account) (kept : Kept arena live) :
    Accounts arena live account := by
  have place {newer older : List Entry} {entry : Entry}
      (whole : account.entries = newer ++ entry :: older) :
      ∀ address ∈ entry.holder, address = arena.base + total older := by
    have located := reflects.located
    rw [whole, reflects.base] at located
    exact located.split
  have start : arena.start = arena.base + account.used := by
    rw [← reflects.base]
    exact reflects.top.symm
  refine ⟨?_, start, ?_, ?_, ?_⟩
  · rw [Arena.used, start, Nat.add_sub_cancel_left]
  · intro newer entry older whole
    have member : entry ∈ account.entries := by simp [whole]
    refine ⟨(reflects.located.mem member).1, fun address holder => ⟨place whole address holder, ?_⟩⟩
    exact reflects.known entry member address holder
  · intro block named
    obtain ⟨entry, member, holder⟩ := reflects.held block named
    obtain ⟨newer, older, whole⟩ := List.append_of_mem member
    exact ⟨newer, entry, older, whole, holder, place whole block.address holder⟩
  · intro block named
    rw [kept.isLast_eq named, decide_eq_decide]
    exact (reflects.intactTop_iff kept named).symm

end Account

/-- The space in use of an arena is what its account says, after any requests about live blocks, and
what is frozen stays in it through all others up to the next reset. -/
theorem space_accounted {place : Nat} {machine : Machine} {requests : List Request}
    (real : place ≠ 0) (made : (machine.arenas place).Made)
    (named : Ledger.NamedRun place requests { machine }) :
    let ledger := Ledger.run place requests { machine }
    let account := Account.follow place requests { machine } { base := (machine.arenas place).base }
    Account.Accounts (ledger.arena place) ledger.live account ∧
      ∀ later, Ledger.NamedRun place later ledger → .reset ∉ later →
        Account.Retains ledger.live (ledger.run place later).live account.entries
          (account.follow place later ledger).entries := by
  intro ledger account
  let fresh : Ledger := { machine }
  have unused : Kept (fresh.arena place) fresh.live := made.kept
  have blank : Account.Reflects (fresh.arena place) fresh.live
      { base := (machine.arenas place).base } :=
    ⟨rfl, congrArg start made.reset, trivial, by simp [fresh], by simp⟩
  have kept : Kept (ledger.arena place) ledger.live := (Ledger.run_kept real named unused).1
  have reflects : Account.Reflects (ledger.arena place) ledger.live account :=
    (blank.follow real unused named).1
  refine ⟨reflects.accounts kept, fun later names lasting => ?_⟩
  exact (reflects.follow real kept names).2 lasting

theorem space_accounted_out_of_order :
    let machine : Machine := { arenas := fun _ => .borrowed 65536 200 }
    let requests := [.alloc 5, .resize none 0 10, .alloc 8, .realloc 65544 10 4,
      .free (some 65536) 5, .view (some 65560) 8 0]
    let ledger := Ledger.run 64 requests { machine }
    let account := Account.follow 64 requests { machine } { base := 65536 }
    let later := [.resize (some 65544) 4 20, .view (some 65560) 20 16]
    account.entries = [⟨6, none⟩, ⟨10, some 65544⟩, ⟨3, none⟩, ⟨5, none⟩] ∧
      (account.follow 64 later ledger).entries =
        [⟨16, some 65560⟩, ⟨6, none⟩, ⟨10, none⟩, ⟨3, none⟩, ⟨5, none⟩] ∧
      Account.Accounts (ledger.arena 64) ledger.live account ∧
      Account.Retains ledger.live (ledger.run 64 later).live account.entries
        (account.follow 64 later ledger).entries := by
  intro machine requests ledger account later
  have accounted := @space_accounted 64 machine requests (by decide)
    (.borrowed 65536 200 (by decide)) (by decide)
  exact ⟨by decide, by decide, accounted.1, accounted.2 later (by decide) (by decide)⟩

end Arena

end ArenaThreads
