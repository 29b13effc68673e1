import ArenaThreads.Proofs.Arena.Shifted
import ArenaThreads.Proofs.Process.ContextSteps
import ArenaThreads.Proofs.Process.TidyFunctions
import ArenaThreads.Proofs.Region.Moved
/-!
One function in two regions of one layout. Where it does the same at both places whatever it is
answered, and does not depend on bytes that it has not written, its steps have the same answers, up to
the way from one region to the other.
-/

namespace ArenaThreads

structure Setting where
  region : Region
  other : Region
  guests : Nat → Option Mapping := fun _ => none

namespace Setting

def Clear (start length : Nat) (setting : Setting) : Prop :=
  ∀ i, i < length → ¬setting.region.Holds (start + i) ∧ ¬setting.other.Holds (start + i)

def SameWord (one further : Nat) (setting : Setting) : Prop :=
  further = one ∨
    setting.region.Holds one ∧ Shift setting.region.base setting.other.base one further

inductive SameNote (setting : Setting) : Note → Note → Prop
  | block {block target : Option Nat} (same : Option.Rel setting.SameWord block target) :
    SameNote setting (.block block) (.block target)
  | context {context other : Nat} (same : setting.SameWord context other) :
    SameNote setting (.context context) (.context other)
  | flag (flag : Bool) : SameNote setting (.flag flag) (.flag flag)

structure SameShared (setting : Setting) (first second : Shared) : Prop where
  words : second.words = first.words
  openGates : second.openGates = first.openGates
  notes : ∀ key, List.Forall₂ setting.SameNote (first.notes key) (second.notes key)

/-- Arenas that correspond, by the places where they are kept: over the storage behind the context
copy, or the same one elsewhere. Their blocks lie between a floor and a ceiling, at the same distance
from two bases. -/
inductive Venue (setting : Setting) : Nat → Nat → Nat → Nat → Nat → Nat → Prop
  | own : Venue setting setting.region.block setting.other.block setting.region.base
      setting.other.base (setting.region.copy + Context.size)
      (setting.region.storageStart + setting.region.storage)
  | guest {place : Nat} {range : Mapping} (known : setting.guests place = some range) :
      Venue setting place place 0 0 range.base (range.base + range.length)

inductive Source (setting : Setting) :
    Allocator → Allocator → Nat → Nat → (Nat → Nat → Prop) → Prop
  | arena {place counterpart base further floor ceiling : Nat}
    (venue : setting.Venue place counterpart base further floor ceiling) :
      Source setting (.arena place) (.arena counterpart) base further fun start length =>
        floor ≤ start ∧ start + length ≤ ceiling
  | heap {allocator : Allocator} (kind : allocator.kind = .heap) :
      Source setting allocator allocator 0 0 fun start length => setting.Clear start length

structure Fair (setting : Setting) : Prop where
  moves : setting.region.Moved setting.other
  placed : setting.region.Placed
  others : setting.other.Placed
  room : setting.region.copy + Context.size ≤ setting.region.storageStart + setting.region.storage
  word : setting.region.base + setting.region.length < wordLimit
  words : setting.other.base + setting.other.length < wordLimit
  guests : ∀ {place range}, setting.guests place = some range →
    place ≠ 0 ∧ place ≠ setting.region.block ∧ place ≠ setting.other.block ∧ 0 < range.base ∧
      setting.Clear range.base range.length

end Setting

/-- What a function knows in two regions: its current context in each, and the bytes there may be. -/
structure Sides where
  current : Nat × Nat
  likeness : Likeness

def Likeness.resize (block : Option Nat) (oldSize newSize : Nat) (answer : Option Nat)
    (likeness : Likeness) : Likeness :=
  match block, answer with
  | some source, some target => likeness.copy source target (min oldSize newSize)
  | _, _ => likeness

/-- Whatever they are answered, two functions make requests that correspond, as long as the answers
do; bytes that may differ are told to both. -/
def Routine.Matches (setting : Setting) : Routine → Routine → Sides → Prop
  | .done result, .done other, _ => setting.SameWord result other
  | .current next, .current others, sides =>
    Matches setting (next sides.current.1) (others sides.current.2) sides
  | .setCurrent context next, .setCurrent other others, sides =>
    (context ≠ 0 ∧ other ≠ 0) ∧ Matches setting (next sides.current.1) (others sides.current.2)
      { sides with current := (context, other) }
  | .resize allocator block oldSize newSize next, .resize other target old new others, sides =>
    (old = oldSize ∧ new = newSize) ∧ ∃ base further inside,
      setting.Source allocator other base further inside ∧
      Option.Rel (Shift base further) block target ∧ (∀ address ∈ block, inside address oldSize) ∧
      ∀ answer moved, Option.Rel (Shift base further) answer moved →
        (∀ address ∈ answer, 0 < newSize ∧ inside address newSize) →
          Matches setting (next answer) (others moved)
            { sides with likeness := sides.likeness.resize block oldSize newSize answer }
  | .fillUp allocator size next, .fillUp other count others, sides =>
    count = size ∧ ∃ base further inside, setting.Source allocator other base further inside ∧
      ∀ answer, Matches setting (next answer) (others answer)
        { sides with likeness := sides.likeness.level fun address => inside address 1 }
  | .read start length next, .read moved size others, sides =>
    size = length ∧ setting.region.Span setting.other start moved length ∧
      ∀ bytes further : Nat → UInt8,
        (∀ i, i < length → sides.likeness (start + i) (bytes i) (further i)) →
          Matches setting (next ((List.range length).map bytes))
            (others ((List.range length).map further)) sides
  | .write start length bytes next, .write moved size further others, sides =>
    size = length ∧ setting.region.Span setting.other start moved length ∧
      Matches setting next others
        { sides with likeness := sides.likeness.write start length bytes further }
  | .share act next, .share other others, sides =>
    (∀ first second, setting.SameShared first second →
      Option.Rel setting.SameShared (act first) (other second)) ∧ Matches setting next others sides
  | _, _, _ => False

namespace Setting

/-- Storage that a thread has been prepared with: its context copy, and no byte that is known. Outside
both regions all bytes are the same. -/
def initial (setting : Setting) : Likeness :=
  Likeness.write setting.region.copy Context.size (Context.byte ⟨.arena setting.region.block⟩)
    (Context.byte ⟨.arena setting.other.block⟩) fun address one other =>
      setting.region.Holds address ∨ one = other

theorem initial_outside {setting : Setting} (fair : setting.Fair) {address : Nat}
    (outside : ¬setting.region.Holds address) {one other : UInt8} :
    setting.initial address one other ↔ one = other := by
  have filled := Region.storage_inside fair.placed
  have room := fair.room
  have elsewhere : ¬(setting.region.copy ≤ address ∧
      address < setting.region.copy + Context.size) := by
    rintro ⟨low, high⟩
    refine outside ⟨?_, by omega⟩
    simp only [Region.copy, Region.storageStart] at low
    omega
  rw [initial, Likeness.write, if_neg elsewhere]
  exact or_iff_right outside

def beginning (setting : Setting) : Sides :=
  ⟨(setting.region.copy, setting.other.copy), setting.initial⟩

end Setting

structure Abreast (setting : Setting) (first second : Machine) : Prop where
  shared : setting.SameShared first.shared second.shared
  arenas : ∀ {place counterpart base further floor ceiling},
    setting.Venue place counterpart base further floor ceiling →
      Arena.Level base further floor (first.arenas place) (second.arenas counterpart) ∧
        (first.arenas place).limit = ceiling

structure Sides.Hold (setting : Setting) (first second : Machine) (sides : Sides) : Prop where
  abreast : Abreast setting first second
  meets : Memory.Meets setting.region setting.other sides.likeness first.memory second.memory
  current : (first.blocks setting.region.block).current = sides.current.1
  others : (second.blocks setting.other.block).current = sides.current.2
  real : sides.current.1 ≠ 0 ∧ sides.current.2 ≠ 0

section

variable {setting : Setting} {first second : Machine} {sides : Sides} {allocator other : Allocator}
  {base further floor ceiling place counterpart : Nat} {inside : Nat → Nat → Prop}
  {likeness : Likeness} {block target answer : Option Nat} {oldSize newSize size : Nat}
  {arena level : Arena}

/-! Places that correspond -/

theorem Region.Moved.copy {region other : Region} (moves : region.Moved other) :
    Shift region.base other.base region.copy other.copy := by
  have start := moves.storageStart
  have padding := moves.padding
  simp only [Shift, Region.copy] at *
  omega

namespace Setting

theorem Fair.copied (fair : setting.Fair) :
    setting.region.Span setting.other setting.region.copy setting.other.copy Context.size := by
  have room := fair.room
  have filled := Region.storage_inside fair.placed
  refine .within ?_ (by omega) fair.moves.copy
  simp only [Region.copy, Region.storageStart]
  omega

theorem Fair.sameCopy (fair : setting.Fair) :
    setting.SameWord setting.region.copy setting.other.copy := by
  have room := fair.room
  have filled := Region.storage_inside fair.placed
  refine .inr ⟨⟨?_, ?_⟩, fair.moves.copy⟩
  · simp only [Region.copy, Region.storageStart]
    omega
  · simp only [Context.size] at room
    omega

theorem Fair.guest_clear (fair : setting.Fair) {range : Mapping}
    (known : setting.guests place = some range) {start length : Nat} (low : range.base ≤ start)
    (high : start + length ≤ range.base + range.length) : setting.Clear start length := by
  obtain ⟨-, -, -, -, clear⟩ := fair.guests known
  intro i within
  have whole : range.base + (start - range.base + i) = start + i := by omega
  rw [← whole]
  exact clear _ (by omega)

theorem Source.span (source : setting.Source allocator other base further inside)
    (fair : setting.Fair) {start moved length : Nat} (within : inside start length)
    (shift : Shift base further start moved) :
    setting.region.Span setting.other start moved length := by
  cases source with
  | heap kind => exact .outside shift within
  | arena venue =>
    obtain ⟨low, high⟩ := within
    cases venue with
    | own =>
      have filled := Region.storage_inside fair.placed
      refine .within ?_ (by omega) shift
      simp only [Region.copy, Region.storageStart] at low
      omega
    | guest known => exact .outside shift (fair.guest_clear known low high)

theorem Venue.real (venue : setting.Venue place counterpart base further floor ceiling)
    (fair : setting.Fair) : place ≠ 0 ∧ counterpart ≠ 0 := by
  cases venue with
  | own => exact ⟨Region.block_real fair.placed, Region.block_real fair.others⟩
  | guest known =>
    have real := (fair.guests known).1
    exact ⟨real, real⟩

theorem Venue.unique {spot image lower upper low high : Nat} (fair : setting.Fair)
    (venue : setting.Venue place counterpart base further floor ceiling)
    (elsewhere : setting.Venue spot image lower upper low high) :
    spot = place ∧ image = counterpart ∧ lower = base ∧ upper = further ∧ low = floor ∧
        high = ceiling ∨
      spot ≠ place ∧ image ≠ counterpart := by
  cases venue with
  | own =>
    cases elsewhere with
    | own => exact .inl ⟨rfl, rfl, rfl, rfl, rfl, rfl⟩
    | guest known =>
      obtain ⟨-, one, both, -⟩ := fair.guests known
      exact .inr ⟨one, both⟩
  | guest known =>
    cases elsewhere with
    | own =>
      obtain ⟨-, one, both, -⟩ := fair.guests known
      exact .inr ⟨one.symm, both.symm⟩
    | guest others =>
      by_cases same : spot = place
      · subst same
        cases known.symm.trans others
        exact .inl ⟨rfl, rfl, rfl, rfl, rfl, rfl⟩
      · exact .inr ⟨same, same⟩

end Setting

theorem Abreast.settle (abreast : Abreast setting first second) (fair : setting.Fair)
    (venue : setting.Venue place counterpart base further floor ceiling)
    (levels : Arena.Level base further floor arena level) (limit : arena.limit = ceiling)
    (bytes others : Memory) :
    Abreast setting { first with arenas := first.arenas.set place arena, memory := bytes }
      { second with arenas := second.arenas.set counterpart level, memory := others } := by
  refine ⟨abreast.shared, ?_⟩
  intro spot image lower upper low high another
  rcases Setting.Venue.unique fair venue another with ⟨rfl, rfl, rfl, rfl, rfl, rfl⟩ | ⟨one, both⟩
  · simp only [Cells.set_same]
    exact ⟨levels, limit⟩
  · simp only [Cells.set_other _ _ one, Cells.set_other _ _ both]
    exact abreast.arenas another

/-! Requests -/

theorem Arena.resize_moves (arena : Arena) (block : Option Nat) (oldSize newSize : Nat) :
    ((arena.resize block oldSize newSize).move = none ∧ ∀ source target, block = some source →
        (arena.resize block oldSize newSize).block = some target → target = source) ∨
      ∃ source target, block = some source ∧
        (arena.resize block oldSize newSize).block = some target ∧
        (arena.resize block oldSize newSize).move = some ⟨source, target, oldSize⟩ ∧
        oldSize ≤ newSize := by
  rw [Arena.resize.eq_def]
  split
  case isTrue frees =>
    refine .inl ⟨rfl, ?_⟩
    intro source target here there
    cases there
  case isFalse keeps =>
    cases block with
    | none =>
      refine .inl ⟨rfl, ?_⟩
      intro source target here
      cases here
    | some address =>
      have lost (source target : Nat) (here : some address = some source)
          (there : none = some target) : target = source := by cases there
      have stays (source target : Nat) (here : some address = some source)
          (there : some address = some target) : target = source :=
        Option.some.inj (there.symm.trans here)
      dsimp only
      rw [Arena.realloc]
      split
      case isTrue same => exact .inl ⟨rfl, stays⟩
      case isFalse differs =>
      split
      case isTrue last =>
        split
        case isTrue grows =>
          split
          · exact .inl ⟨rfl, lost⟩
          · exact .inl ⟨rfl, stays⟩
        case isFalse shrinks => exact .inl ⟨rfl, stays⟩
      case isFalse older =>
      split
      case isTrue shrinks => exact .inl ⟨rfl, stays⟩
      case isFalse grows =>
        rcases arena.alloc newSize with ⟨_ | fresh, grown⟩
        · exact .inl ⟨rfl, lost⟩
        · exact .inr ⟨address, fresh, rfl, rfl, rfl, by omega⟩

theorem Arena.resize_some {arena : Arena} {address : Nat}
    (answered : (arena.resize block oldSize newSize).block = some address) : 0 < newSize := by
  refine Nat.pos_of_ne_zero ?_
  rintro rfl
  cases answered

theorem Machine.heapRequest_some {machine : Machine} {heap : HeapAnswers} {address : Nat}
    (answered : (machine.heapRequest (Heap.request block oldSize newSize) heap).1 = some address) :
    0 < newSize := by
  refine Nat.pos_of_ne_zero ?_
  rintro rfl
  cases block with
  | none => cases answered
  | some block =>
    rw [Heap.request, if_pos rfl] at answered
    split at answered
    · cases answered
    · cases answered

theorem Heap.request_cases (block : Option Nat) (oldSize newSize : Nat) :
    Heap.request block oldSize newSize = .settled none ∨
      Heap.request block oldSize newSize = .settled block ∧ oldSize = newSize ∨
      block = none ∧ Heap.request block oldSize newSize = .allocate newSize ∨
      (∃ address, block = some address ∧
        Heap.request block oldSize newSize = .deallocate address oldSize) ∨
      ∃ address, block = some address ∧
        Heap.request block oldSize newSize = .reallocate address oldSize newSize := by
  unfold Heap.request
  cases block with
  | none =>
    dsimp only
    split
    · exact .inr (.inr (.inl ⟨rfl, rfl⟩))
    · exact .inl rfl
  | some address =>
    dsimp only
    split
    · split
      · exact .inr (.inr (.inr (.inl ⟨address, rfl, rfl⟩)))
      · exact .inl rfl
    · split
      case isTrue same => exact .inr (.inl ⟨rfl, same⟩)
      case isFalse differs =>
        split
        · exact .inr (.inr (.inr (.inr ⟨address, rfl, rfl⟩)))
        · exact .inl rfl

theorem Likeness.copy_self (source length : Nat) (likeness : Likeness) :
    likeness.copy source source length = likeness := by
  funext address one other
  unfold Likeness.copy
  split
  · rw [Nat.add_sub_of_le (by omega)]
  · rfl

theorem Likeness.resize_still (stays : ∀ source target, block = some source →
      answer = some target → target = source) (likeness : Likeness) :
    likeness.resize block oldSize newSize answer = likeness := by
  cases block with
  | none => rfl
  | some source =>
    cases answer with
    | none => rfl
    | some target =>
      obtain rfl := stays source target rfl rfl
      exact copy_self ..

namespace Sides.Hold

theorem changed (holds : sides.Hold setting first second) {one both : Cells Nat Arena}
    {bytes others : Memory}
    (abreast : Abreast setting { first with arenas := one, memory := bytes }
      { second with arenas := both, memory := others })
    (meets : Memory.Meets setting.region setting.other likeness bytes others) :
    { sides with likeness := likeness }.Hold setting { first with arenas := one, memory := bytes }
      { second with arenas := both, memory := others } :=
  ⟨abreast, meets, holds.current, holds.others, holds.real⟩

theorem settle (holds : sides.Hold setting first second) (fair : setting.Fair)
    (venue : setting.Venue place counterpart base further floor ceiling)
    (shift : Option.Rel (Shift base further) block target)
    (within : ∀ address ∈ block, floor ≤ address ∧ address + oldSize ≤ ceiling) (newSize : Nat) :
    let one := (first.arenas place).resize block oldSize newSize
    let both := (second.arenas counterpart).resize target oldSize newSize
    Option.Rel (Shift base further) one.block both.block ∧
      (∀ address ∈ one.block, 0 < newSize ∧ floor ≤ address ∧ address + newSize ≤ ceiling) ∧
      { sides with likeness := sides.likeness.resize block oldSize newSize one.block }.Hold setting
        (first.settleArena place one) (second.settleArena counterpart both) := by
  intro one both
  obtain ⟨levels, limit⟩ := holds.abreast.arenas venue
  have covers : (first.arenas place).Covers floor block oldSize := by
    intro address member
    rw [limit]
    exact within address member
  obtain ⟨shifted, after⟩ := levels.resize covers shift newSize
  have answers := (levels.above.resize covers newSize).2
  rw [Arena.Covers, limit] at answers
  have ends : one.arena.limit = ceiling := (Arena.reset_limit (Arena.resize_range ..)).trans limit
  refine ⟨shifted.block, fun address answer => ⟨Arena.resize_some answer, answers address answer⟩,
    holds.changed (holds.abreast.settle fair venue after ends _ _) ?_⟩
  have moves := shifted.move
  rcases Arena.resize_moves (first.arenas place) block oldSize newSize with
    ⟨still, stays⟩ | ⟨source, goal, here, there, moved, grows⟩
  · rw [Likeness.resize_still stays]
    rw [still] at moves ⊢
    generalize ((second.arenas counterpart).resize target oldSize newSize).move = other at moves ⊢
    cases moves with
    | none => exact holds.meets
  · rw [moved] at moves ⊢
    generalize ((second.arenas counterpart).resize target oldSize newSize).move = other at moves ⊢
    cases moves with
    | some move =>
      have known : sides.likeness.resize block oldSize newSize one.block =
          sides.likeness.copy source goal oldSize := by
        subst here
        rw [show one.block = some goal from there, Likeness.resize, Nat.min_eq_left grows]
      obtain ⟨low, high⟩ := answers goal there
      have reads := (Setting.Source.arena venue).span fair (within source here) move.source
      have writes := (Setting.Source.arena venue).span fair
        (show floor ≤ goal ∧ goal + oldSize ≤ ceiling by omega) move.target
      rw [known]
      dsimp only
      rw [move.length]
      exact holds.meets.copy fair.moves reads writes

theorem wrote (holds : sides.Hold setting first second) {bytes others : Memory}
    (meets : Memory.Meets setting.region setting.other likeness bytes others) :
    { sides with likeness := likeness }.Hold setting { first with memory := bytes }
      { second with memory := others } :=
  ⟨⟨holds.abreast.shared, holds.abreast.arenas⟩, meets, holds.current, holds.others, holds.real⟩

theorem called (holds : sides.Hold setting first second) (call : MemoryCall) :
    sides.Hold setting (first.called call) (second.called call) :=
  ⟨⟨holds.abreast.shared, holds.abreast.arenas⟩, holds.meets, holds.current, holds.others, holds.real⟩

theorem heapRequest {heap : HeapAnswers} (holds : sides.Hold setting first second)
    (fair : setting.Fair) (clear : ∀ size place, heap size = some place → setting.Clear place size)
    (within : ∀ address ∈ block, setting.Clear address oldSize) (newSize : Nat) :
    let request := Heap.request block oldSize newSize
    (second.heapRequest request heap).1 = (first.heapRequest request heap).1 ∧
      (∀ address ∈ (first.heapRequest request heap).1, setting.Clear address newSize) ∧
      { sides with likeness :=
          sides.likeness.resize block oldSize newSize (first.heapRequest request heap).1 }.Hold
        setting (first.heapRequest request heap).2 (second.heapRequest request heap).2 := by
  intro request
  have nothing : sides.likeness.resize block oldSize newSize none = sides.likeness := by
    cases block <;> rfl
  have stays (answered : Machine × Machine)
      (held : sides.Hold setting answered.1 answered.2) :
      { sides with likeness := sides.likeness.resize block oldSize newSize none }.Hold setting
        answered.1 answered.2 := by
    rwa [nothing]
  rcases Heap.request_cases block oldSize newSize with
    asked | ⟨asked, same⟩ | ⟨rfl, asked⟩ | ⟨address, rfl, asked⟩ | ⟨address, rfl, asked⟩
  · rw [show request = .settled none from asked]
    exact ⟨rfl, nofun, stays (first, second) holds⟩
  · rw [show request = .settled block from asked]
    subst same
    have still := @Likeness.resize_still block block oldSize oldSize
      (fun source target here there => Option.some.inj (there.symm.trans here)) sides.likeness
    refine ⟨rfl, within, ?_⟩
    simp only [Machine.heapRequest, still]
    exact holds
  · rw [show request = .allocate newSize from asked]
    exact ⟨rfl, clear newSize, holds.called _⟩
  · rw [show request = .deallocate address oldSize from asked]
    exact ⟨rfl, nofun, holds.called _⟩
  · rw [show request = .reallocate address oldSize newSize from asked]
    have called := holds.called (.heap (.reallocate address oldSize newSize))
    simp only [Machine.heapRequest]
    cases answered : heap newSize with
    | none => exact ⟨rfl, nofun, called⟩
    | some fresh =>
      have there := clear newSize fresh answered
      refine ⟨rfl, ?_, ?_⟩
      · rintro _ ⟨⟩
        exact there
      · have reads : setting.region.Span setting.other address address (min oldSize newSize) :=
          .outside rfl fun i low => within address rfl i (by omega)
        have writes : setting.region.Span setting.other fresh fresh (min oldSize newSize) :=
          .outside rfl fun i low => there i (by omega)
        exact called.wrote (called.meets.copy fair.moves reads writes)

theorem fillUp (holds : sides.Hold setting first second) (fair : setting.Fair)
    (venue : setting.Venue place counterpart base further floor ceiling) (size : Nat) :
    (second.fillUp (.arena counterpart) size).1 = (first.fillUp (.arena place) size).1 ∧
      { sides with likeness := sides.likeness.level fun address =>
          floor ≤ address ∧ address + 1 ≤ ceiling }.Hold setting
        (first.fillUp (.arena place) size).2 (second.fillUp (.arena counterpart) size).2 := by
  obtain ⟨levels, limit⟩ := holds.abreast.arenas venue
  obtain ⟨count, after⟩ := levels.takeAll size
  have ends := (Arena.reset_limit (Arena.takeAll_range _ size)).trans limit
  refine ⟨count, holds.changed (holds.abreast.settle fair venue after ends _ _) ?_⟩
  have start := levels.start
  have padding := levels.padding
  have filled := after.start
  have low := levels.above.low
  have bound := (@Arena.takeAll_bound (first.arenas place) size levels.above.high).2
  rw [limit] at bound
  have length : ((second.arenas counterpart).takeAll size).start -
      ((second.arenas counterpart).start + Arena.padding (second.arenas counterpart).start) =
        ((first.arenas place).takeAll size).start -
          ((first.arenas place).start + Arena.padding (first.arenas place).start) := by
    simp only [Shift] at *
    omega
  have there : Shift base further
      ((first.arenas place).start + Arena.padding (first.arenas place).start)
      ((second.arenas counterpart).start + Arena.padding (second.arenas counterpart).start) := by
    simp only [Shift] at *
    omega
  have least : floor ≤ (first.arenas place).start + Arena.padding (first.arenas place).start := by
    omega
  dsimp only [Allocator.arena]
  rw [length]
  generalize (first.arenas place).start + Arena.padding (first.arenas place).start = begins
    at there least ⊢
  generalize (second.arenas counterpart).start + Arena.padding (second.arenas counterpart).start =
    goes at there ⊢
  -- Without a block nothing is written, and the range may begin behind the ceiling.
  by_cases nothing : ((first.arenas place).takeAll size).start - begins = 0
  · rw [nothing]
    intro address common
    rw [Memory.write_outside _ _ (by omega), Memory.write_outside _ _ (by omega)]
    exact .inl (holds.meets address common)
  · have span := (Setting.Source.arena venue).span fair
      (show floor ≤ begins ∧ begins + (((first.arenas place).takeAll size).start - begins) ≤ ceiling
        by omega) there
    refine (holds.meets.write fair.moves span _ _).mono ?_
    intro address one other written
    unfold Likeness.write at written
    split at written
    case isFalse outside => exact .inl written
    case isTrue inside =>
      obtain ⟨rfl, rfl⟩ := written
      -- The padding between two blocks keeps its bytes.
      by_cases block : (address - begins) % Arena.stride size < size
      · simp only [if_pos block]
        exact .inr ⟨by omega, rfl⟩
      · simp only [if_neg block]
        have read := holds.meets.read span (show address - begins < _ by omega)
        rw [Nat.add_sub_of_le inside.1] at read ⊢
        exact .inl read

end Sides.Hold

/-! Steps -/

def Proceed (setting : Setting) : Option (Routine × Machine) → Option (Routine × Machine) → Prop :=
  Option.Rel fun one other => ∃ sides : Sides,
    one.1.Matches setting other.1 sides ∧ sides.Hold setting one.2 other.2

section

variable {caller callers : Caller} {heap : HeapAnswers}

theorem Sides.Hold.slots_real (holds : sides.Hold setting first second) :
    (first.blocks setting.region.block).current ≠ 0 ∧
      (second.blocks setting.other.block).current ≠ 0 := by
  rw [holds.current, holds.others]
  exact holds.real

theorem current_proceeds {next others : Nat → Routine} (holds : sides.Hold setting first second)
    (slot : first.slot caller = some setting.region.block)
    (otherSlot : second.slot callers = some setting.other.block)
    (same : (Routine.current next).Matches setting (.current others) sides) :
    Proceed setting (first.runStep caller heap (.current next))
      (second.runStep callers heap (.current others)) := by
  obtain ⟨real, reals⟩ := holds.slots_real
  refine .some ⟨sides, ?_, holds⟩
  rw [current_slot slot real, current_slot otherSlot reals, holds.current, holds.others]
  exact same

theorem setCurrent_proceeds {context other : Nat} {next others : Nat → Routine}
    (holds : sides.Hold setting first second)
    (slot : first.slot caller = some setting.region.block)
    (otherSlot : second.slot callers = some setting.other.block)
    (same : (Routine.setCurrent context next).Matches setting (.setCurrent other others) sides) :
    Proceed setting (first.runStep caller heap (.setCurrent context next))
      (second.runStep callers heap (.setCurrent other others)) := by
  obtain ⟨real, reals⟩ := holds.slots_real
  obtain ⟨set, same⟩ := same
  simp only [Machine.runStep, setCurrent_slot _ slot real, setCurrent_slot _ otherSlot reals]
  refine .some ⟨{ sides with current := (context, other) }, ?_, ?_⟩
  · rw [holds.current, holds.others]
    exact same
  · refine ⟨⟨holds.abreast.shared, holds.abreast.arenas⟩, holds.meets, ?_, ?_, set⟩
    · simp [Machine.setSlot]
    · simp [Machine.setSlot]

theorem resize_proceeds {allocator other : Allocator} {block target : Option Nat}
    {oldSize newSize old new : Nat} {next others : Option Nat → Routine}
    (fair : setting.Fair) (holds : sides.Hold setting first second)
    (clear : ∀ size place, heap size = some place → setting.Clear place size)
    (same : (Routine.resize allocator block oldSize newSize next).Matches setting
      (.resize other target old new others) sides) :
    Proceed setting (first.runStep caller heap (.resize allocator block oldSize newSize next))
      (second.runStep callers heap (.resize other target old new others)) := by
  obtain ⟨⟨rfl, rfl⟩, base, above, inside, source, shift, within, goes⟩ := same
  cases source with
  | arena venue =>
    obtain ⟨one, both⟩ := venue.real fair
    obtain ⟨answers, placed, held⟩ := holds.settle fair venue shift within new
    simp only [Machine.runStep, resize_arena one, resize_arena both]
    exact .some ⟨_, goes _ _ answers placed, held⟩
  | heap kind =>
    obtain rfl : target = block := by
      cases shift with
      | none => rfl
      | some shift => exact congrArg some shift
    obtain ⟨answers, placed, held⟩ := holds.heapRequest fair clear within new
    simp only [Machine.runStep, Machine.resize, kind]
    refine .some ⟨_, goes _ _ ?_ ?_, held⟩
    · rw [answers]
      generalize (first.heapRequest (Heap.request target old new) heap).1 = answer
      cases answer with
      | none => exact .none
      | some answer => exact .some rfl
    · intro address answer
      exact ⟨Machine.heapRequest_some answer, placed address answer⟩

theorem fillUp_proceeds {allocator other : Allocator} {size count : Nat}
    {next others : Nat → Routine} (fair : setting.Fair) (holds : sides.Hold setting first second)
    (same : (Routine.fillUp allocator size next).Matches setting (.fillUp other count others) sides) :
    Proceed setting (first.runStep caller heap (.fillUp allocator size next))
      (second.runStep callers heap (.fillUp other count others)) := by
  obtain ⟨rfl, base, above, inside, source, goes⟩ := same
  cases source with
  | arena venue =>
    obtain ⟨counts, held⟩ := holds.fillUp fair venue count
    simp only [Machine.runStep, counts]
    exact .some ⟨_, goes _, held⟩
  | heap kind =>
    simp only [Machine.runStep, Machine.fillUp, kind]
    refine .some ⟨_, goes 0, ?_⟩
    exact holds.wrote (holds.meets.mono fun address one other known => .inl known)

theorem share_proceeds {act acts : Shared → Option Shared} {next others : Routine}
    (holds : sides.Hold setting first second)
    (same : (Routine.share act next).Matches setting (.share acts others) sides) :
    Proceed setting (first.runStep caller heap (.share act next))
      (second.runStep callers heap (.share acts others)) := by
  obtain ⟨alike, goes⟩ := same
  have shared := alike _ _ holds.abreast.shared
  simp only [Machine.runStep]
  generalize act first.shared = one at shared ⊢
  generalize acts second.shared = both at shared ⊢
  cases shared with
  | none => exact .none
  | some shared =>
    exact .some ⟨sides, goes, ⟨shared, holds.abreast.arenas⟩, holds.meets, holds.current,
      holds.others, holds.real⟩

theorem runStep_matches {rest others : Routine} (fair : setting.Fair)
    (holds : sides.Hold setting first second)
    (slot : first.slot caller = some setting.region.block)
    (otherSlot : second.slot callers = some setting.other.block)
    (clear : ∀ size place, heap size = some place → setting.Clear place size)
    (same : rest.Matches setting others sides) :
    Proceed setting (first.runStep caller heap rest) (second.runStep callers heap others) := by
  -- Only routines that are about to do the same thing match.
  cases rest <;> cases others <;> try exact same.elim
  case done.done => exact .none
  case current.current => exact current_proceeds holds slot otherSlot same
  case setCurrent.setCurrent => exact setCurrent_proceeds holds slot otherSlot same
  case resize.resize => exact resize_proceeds fair holds clear same
  case fillUp.fillUp => exact fillUp_proceeds fair holds same
  case read.read =>
    obtain ⟨rfl, span, goes⟩ := same
    refine .some ⟨sides, ?_, holds⟩
    simp only [Memory.read_eq]
    exact goes _ _ fun i low => holds.meets.read span low
  case write.write =>
    obtain ⟨rfl, span, goes⟩ := same
    exact .some ⟨_, goes, holds.wrote (holds.meets.write fair.moves span _ _)⟩
  case share.share => exact share_proceeds holds same

end

end

end ArenaThreads
