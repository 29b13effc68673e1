import ArenaThreads.Proofs.Arena.Room
import ArenaThreads.Proofs.Process.Footprint
/-!
Functions that ask the allocator of their context for memory, and write into nothing else. Whatever
they are answered, the arena of their thread stays in order, and its context copy stays what it is.
-/

namespace ArenaThreads

/-- What a function has come by: contexts that it was told are current, allocators that it has read
there, and blocks that are live. -/
structure Estate where
  contexts : List Nat := []
  allocators : List Allocator := []
  live : List Arena.Block := []

namespace Estate

def tell (context : Nat) (estate : Estate) : Estate :=
  { estate with contexts := context :: estate.contexts }

def read (start length : Nat) (bytes : List UInt8) (estate : Estate) : Estate :=
  if start ∈ estate.contexts ∧ length = Context.size then
    { estate with allocators := (Context.ofBytes bytes).allocator :: estate.allocators }
  else estate

def resize (block : Option Nat) (oldSize newSize : Nat) (answer : Option Nat) (estate : Estate) :
    Estate :=
  { estate with live := Arena.Block.afterResize block oldSize newSize answer estate.live }

def Covers (start length : Nat) (estate : Estate) : Prop :=
  ∃ block ∈ estate.live, block.address ≤ start ∧ start + length ≤ block.address + block.size

def Names (block : Option Nat) (size : Nat) (estate : Estate) : Prop :=
  ∀ address ∈ block, (⟨address, size⟩ : Arena.Block) ∈ estate.live

end Estate

/-- Whatever it is answered, a function asks only allocators that it has read in its current context,
gives back and resizes only its own live blocks, and writes only into them. -/
def Routine.Tidy : Routine → Estate → Prop
  | .done _, _ => True
  | .current next, estate => ∀ context, (next context).Tidy (estate.tell context)
  | .setCurrent .., _ => False
  | .resize allocator block oldSize newSize next, estate =>
    allocator ∈ estate.allocators ∧ estate.Names block oldSize ∧
      ∀ answer, (newSize = 0 → answer = none) →
        (next answer).Tidy (estate.resize block oldSize newSize answer)
  | .fillUp allocator _ next, estate =>
    allocator ∈ estate.allocators ∧ ∀ count, (next count).Tidy estate
  | .read start length next, estate =>
    ∀ bytes, (next bytes).Tidy (estate.read start length bytes)
  | .write start length _ next, estate => estate.Covers start length ∧ next.Tidy estate
  | .share _ next, estate => next.Tidy estate

theorem Routine.allocator_tidy {next : Allocator → Routine}
    (tidy : ∀ context allocator, (next allocator).Tidy ⟨[context], [allocator], []⟩) :
    (Routine.allocator next).Tidy {} := by
  intro context bytes
  have asked : Estate.read context Context.size bytes (Estate.tell context {}) =
      ⟨[context], [(Context.ofBytes bytes).allocator], []⟩ := if_pos ⟨List.mem_cons_self, rfl⟩
  rw [asked]
  exact tidy context _

theorem ThreadFunction.sum_tidy {count : Nat} (fits : 8 * count < wordLimit) :
    (ThreadFunction.sum.body count).Tidy {} := by
  simp only [ThreadFunction.sum, Routine.sum]
  apply Routine.allocator_tidy
  intro context allocator
  refine ⟨List.mem_cons_self, nofun, ?_⟩
  intro answer frees
  rw [Nat.mod_eq_of_lt fits] at frees ⊢
  cases answer with
  | none => trivial
  | some place =>
    have positive : 8 * count ≠ 0 := fun zero => nomatch frees zero
    refine ⟨⟨⟨place, 8 * count⟩, ?_, Nat.le_refl _, Nat.le_refl _⟩, trivial⟩
    simp only [Estate.resize, Arena.Block.afterResize, if_neg positive]
    exact List.mem_cons_self

theorem ThreadFunction.exhaust_tidy (size : Nat) : (ThreadFunction.exhaust.body size).Tidy {} := by
  simp only [ThreadFunction.exhaust, Routine.exhaust]
  apply Routine.allocator_tidy
  intro context allocator
  exact ⟨List.mem_cons_self, fun _ => trivial⟩

namespace Region

def copy (region : Region) : Nat := region.storageStart + Arena.padding region.storageStart

theorem copy_real {region : Region} (placed : region.Placed) : region.copy ≠ 0 := by
  have inside := block_inside placed
  simp only [copy]
  omega

def copyBlock (region : Region) : Arena.Block := ⟨region.copy, Context.size⟩

def Lends (address : Nat) (region : Region) : Prop :=
  region.copy + Context.size ≤ address ∧ address < region.storageStart + region.storage

def arena (region : Region) : Arena := .borrowed region.storageStart region.storage

end Region

structure Inside (region : Region) (before after : Machine) : Prop where
  arenas : ∀ place, place ≠ region.block → after.arenas place = before.arenas place
  range : (after.arenas region.block).reset = (before.arenas region.block).reset
  bytes : ∀ address, ¬region.Lends address → after.memory address = before.memory address

/-- The allocator that a function asks is the arena of its region, which keeps all of its blocks and
the context copy. -/
structure Serves (region : Region) (estate : Estate) (machine : Machine) : Prop where
  contexts : ∀ context ∈ estate.contexts, context = region.copy
  allocators : ∀ allocator ∈ estate.allocators, allocator = .arena region.block
  kept : Arena.Kept (machine.arenas region.block) (region.copyBlock :: estate.live)

theorem Serves.nothing {region : Region} {machine : Machine}
    (kept : Arena.Kept (machine.arenas region.block) [region.copyBlock]) :
    Serves region {} machine :=
  ⟨List.forall_mem_nil _, List.forall_mem_nil _, kept⟩

/-- The storage of a region whose arena lends what lies behind the context copy, and a function that
is tidy in its control block. -/
structure Furnished (region : Region) (machine : Machine) : Prop where
  range : (machine.arenas region.block).reset = region.arena
  kept : Arena.Kept (machine.arenas region.block) [region.copyBlock]
  copied : machine.contextAt region.copy = ⟨.arena region.block⟩
  tidy : ((machine.blocks region.block).function.body
    (machine.blocks region.block).argument).Tidy {}

section

variable {region : Region} {machine before after : Machine} {estate : Estate} {caller : Caller}
  {answers : HeapAnswers} {block : Arena.Block} {address first length : Nat}

namespace Furnished

theorem base (furnished : Furnished region machine) :
    (machine.arenas region.block).base = region.storageStart :=
  congrArg Arena.base furnished.range

theorem limit (furnished : Furnished region machine) :
    (machine.arenas region.block).limit = region.storageStart + region.storage :=
  congrArg Arena.limit furnished.range

theorem used (furnished : Furnished region machine) :
    region.copy + Context.size ≤ (machine.arenas region.block).start :=
  (furnished.kept.placed region.copyBlock List.mem_cons_self).high

theorem copy_inside (furnished : Furnished region machine) :
    region.storageStart ≤ region.copy ∧
      region.copy + Context.size ≤ region.storageStart + region.storage := by
  have used := furnished.used
  have high := furnished.kept.high
  rw [furnished.limit] at high
  exact ⟨Nat.le_add_right _ _, Nat.le_trans used high⟩

end Furnished

theorem Region.copy_not_lent {i : Nat} (region : Region) (inside : i < Context.size) :
    ¬region.Lends (region.copy + i) := by
  rintro ⟨low, -⟩
  omega

theorem Serves.placed (serves : Serves region estate machine) (furnished : Furnished region machine)
    (member : block ∈ estate.live) :
    region.copy + Context.size ≤ block.address ∧
      block.address + block.size ≤ region.storageStart + region.storage := by
  have placed := serves.kept.placed block (List.mem_cons_of_mem _ member)
  have apart := (List.pairwise_cons.mp serves.kept.apart).1 block member
  have some := placed.some
  have aligned := placed.aligned
  have low := placed.low
  have ends := Nat.le_trans placed.high serves.kept.high
  rw [furnished.limit] at ends
  rw [furnished.base] at low
  refine ⟨?_, ends⟩
  simp only [Arena.Block.Apart, Region.copyBlock, Region.copy, Arena.padding, Arena.alignment]
    at apart aligned ⊢
  omega

theorem Serves.lends (serves : Serves region estate machine) (furnished : Furnished region machine)
    (covers : estate.Covers first length) (low : first ≤ address) (high : address < first + length) :
    region.Lends address := by
  obtain ⟨block, member, from_block, to_block⟩ := covers
  obtain ⟨behind, ends⟩ := serves.placed furnished member
  exact ⟨by omega, by omega⟩

theorem Inside.refl (region : Region) (machine : Machine) : Inside region machine machine :=
  ⟨fun _ _ => rfl, rfl, fun _ _ => rfl⟩

theorem Inside.still (arenas : after.arenas = before.arenas) (bytes : after.memory = before.memory) :
    Inside region before after :=
  ⟨fun place _ => congrFun arenas place, by rw [arenas], fun address _ => by rw [bytes]⟩

theorem Inside.furnish {arena : Arena} {bytes : Memory}
    (range : arena.reset = (machine.arenas region.block).reset)
    (same : ∀ address, ¬region.Lends address → bytes address = machine.memory address) :
    Inside region machine { machine with
      arenas := machine.arenas.set region.block arena
      memory := bytes } := by
  refine ⟨fun place elsewhere => Cells.set_other _ _ elsewhere, ?_, same⟩
  dsimp only
  rw [Cells.set_same]
  exact range

theorem resize_arena {place : Nat} (real : place ≠ 0) (target : Option Nat) (oldSize newSize : Nat) :
    machine.resize (.arena place) target oldSize newSize answers =
      (((machine.arenas place).resize target oldSize newSize).block,
        machine.settleArena place ((machine.arenas place).resize target oldSize newSize)) :=
  if_neg real

theorem Serves.resize (serves : Serves region estate machine) (furnished : Furnished region machine)
    {target : Option Nat} {oldSize : Nat} (newSize : Nat) (names : estate.Names target oldSize) :
    Inside region machine (machine.settleArena region.block
        ((machine.arenas region.block).resize target oldSize newSize)) ∧
      Serves region
        (estate.resize target oldSize newSize
          ((machine.arenas region.block).resize target oldSize newSize).block)
        (machine.settleArena region.block
          ((machine.arenas region.block).resize target oldSize newSize)) := by
  have used := furnished.used
  have limit := furnished.limit
  constructor
  · apply Inside.furnish (Arena.resize_range ..)
    intro address outside
    cases moved : ((machine.arenas region.block).resize target oldSize newSize).move with
    | none => rfl
    | some move =>
      have bound := Arena.resize_move_bound moved
      apply Memory.write_outside
      by_contra inside
      exact outside ⟨by omega, by omega⟩
  · refine ⟨serves.contexts, serves.allocators, ?_⟩
    have kept := serves.kept.resize_cons newSize names
    dsimp only [Machine.settleArena]
    rw [Cells.set_same]
    exact kept

theorem Serves.fillUp (serves : Serves region estate machine) (furnished : Furnished region machine)
    (size : Nat) :
    Inside region machine (machine.fillUp (.arena region.block) size).2 ∧
      Serves region estate (machine.fillUp (.arena region.block) size).2 := by
  have used := furnished.used
  have limit := furnished.limit
  have bound := @Arena.takeAll_bound (machine.arenas region.block) size serves.kept.high
  constructor
  · apply Inside.furnish (Arena.takeAll_range ..)
    intro address outside
    apply Memory.write_outside
    by_contra inside
    dsimp only [Allocator.arena] at inside
    exact outside ⟨by omega, by omega⟩
  · refine ⟨serves.contexts, serves.allocators, ?_⟩
    have kept := serves.kept.takeAll size
    dsimp only [Machine.fillUp, Allocator.arena]
    rw [Cells.set_same]
    exact kept

theorem Serves.read (serves : Serves region estate machine) (furnished : Furnished region machine)
    (first length : Nat) :
    Serves region (estate.read first length (machine.memory.read first length)) machine := by
  unfold Estate.read
  split
  case isFalse other => exact serves
  case isTrue whole =>
    obtain ⟨told, rfl⟩ := whole
    obtain rfl := serves.contexts first told
    refine ⟨serves.contexts, List.forall_mem_cons.mpr ⟨?_, serves.allocators⟩, serves.kept⟩
    exact congrArg Context.allocator furnished.copied

theorem runStep_inside {rest next : Routine}
    (stepped : machine.runStep caller answers rest = some (next, after))
    (furnished : Furnished region machine) (tidy : rest.Tidy estate)
    (serves : Serves region estate machine) (current : machine.current caller = region.copy)
    (real : region.block ≠ 0) :
    Inside region machine after ∧
      ∃ further, next.Tidy further ∧ Serves region further after := by
  cases rest with
  | done result => cases stepped
  | setCurrent context continuation => exact tidy.elim
  | current continuation =>
    cases stepped
    refine ⟨.refl .., estate.tell _, tidy _, ?_, serves.allocators, serves.kept⟩
    exact List.forall_mem_cons.mpr ⟨current, serves.contexts⟩
  | resize allocator target oldSize newSize continuation =>
    obtain ⟨asked, names, goes⟩ := tidy
    obtain rfl := serves.allocators allocator asked
    simp only [Machine.runStep, resize_arena real] at stepped
    cases stepped
    obtain ⟨inside, further⟩ := serves.resize furnished newSize names
    refine ⟨inside, _, goes _ ?_, further⟩
    rintro rfl
    rfl
  | fillUp allocator size continuation =>
    obtain ⟨asked, goes⟩ := tidy
    obtain rfl := serves.allocators allocator asked
    cases stepped
    obtain ⟨inside, further⟩ := serves.fillUp furnished size
    exact ⟨inside, estate, goes _, further⟩
  | read start length continuation =>
    cases stepped
    exact ⟨.refl .., _, tidy _, serves.read furnished start length⟩
  | write start length bytes continuation =>
    obtain ⟨covers, goes⟩ := tidy
    cases stepped
    refine ⟨⟨fun _ _ => rfl, rfl, ?_⟩, estate, goes, serves.contexts, serves.allocators, serves.kept⟩
    intro address outside
    apply Memory.write_outside
    by_contra inside
    exact outside (serves.lends furnished covers (by omega) (by omega))
  | share act continuation =>
    obtain ⟨shared, -, same⟩ := Option.map_eq_some_iff.mp stepped
    cases same
    exact ⟨.still rfl rfl, estate, tidy, serves.contexts, serves.allocators, serves.kept⟩

end

end ArenaThreads
