import ArenaThreads.Proofs.Region.Layout
import ArenaThreads.Proofs.Registry.Links
import ArenaThreads.System
/-!
Who owns the memory of threads: each handle its own, and nobody the memory that has been abandoned.
All owned memory is mapped, laid out, in the registry, and apart from all other owned memory.
-/

namespace ArenaThreads

namespace ControlBlock

def layout (block : ControlBlock) : ControlBlock :=
  { block with
    function := default, argument := 0, result := 0, joinWord := 0, state := .ready, current := 0
    arguments := {} }

theorem layout_next {before after : ControlBlock} (same : after.layout = before.layout) :
    after.next = before.next := by
  simpa [layout] using congrArg next same

structure Describes (region : Region) (block : ControlBlock) : Prop where
  low : block.stackLow = region.stackLow
  high : block.stackHigh = region.block
  size : block.stackSize = region.block - region.stackLow
  storage : block.storage = region.storageStart
  storageSize : block.storageSize = region.storage
  context : block.context = region.storageStart + Arena.padding region.storageStart

theorem describes_layout {region : Region} {block : ControlBlock} :
    block.layout.Describes region ↔ block.Describes region :=
  ⟨fun ⟨low, high, size, storage, storageSize, context⟩ =>
      ⟨low, high, size, storage, storageSize, context⟩,
    fun ⟨low, high, size, storage, storageSize, context⟩ =>
      ⟨low, high, size, storage, storageSize, context⟩⟩

theorem describes_detached {region : Region} {block : ControlBlock} :
    block.detached.Describes region ↔ block.Describes region :=
  ⟨fun ⟨low, high, size, storage, storageSize, context⟩ =>
      ⟨low, high, size, storage, storageSize, context⟩,
    fun ⟨low, high, size, storage, storageSize, context⟩ =>
      ⟨low, high, size, storage, storageSize, context⟩⟩

end ControlBlock

/-- What an operation on other memory leaves of a thread's region: its control block but for the
link, its arena, its bytes, its mapping and its place in the registry. -/
structure Undisturbed (region : Region) (before after : Machine) : Prop where
  block : (after.blocks region.block).detached = (before.blocks region.block).detached
  arena : after.arenas region.block = before.arenas region.block
  bytes : ∀ address, region.base ≤ address → address < region.base + region.length →
    after.memory address = before.memory address
  mapped : region.mapping ∈ before.mappings → region.mapping ∈ after.mappings
  listed : region.block ∈ before.registry.members before.blocks →
    region.block ∈ after.registry.members after.blocks

theorem Undisturbed.refl (region : Region) (machine : Machine) :
    Undisturbed region machine machine :=
  ⟨rfl, rfl, fun _ _ _ => rfl, id, id⟩

theorem Undisturbed.trans {region : Region} {before between after : Machine}
    (first : Undisturbed region before between) (second : Undisturbed region between after) :
    Undisturbed region before after where
  block := second.block.trans first.block
  arena := second.arena.trans first.arena
  bytes address low high := (second.bytes address low high).trans (first.bytes address low high)
  mapped := second.mapped ∘ first.mapped
  listed := second.listed ∘ first.listed

inductive Owner
  | handle (name : Nat)
  | abandoned (index : Nat)
  deriving DecidableEq

abbrev Holdings := Cells Owner (Option ThreadMemory)

structure Housed (memory : ThreadMemory) (machine : Machine) : Prop where
  registered : memory.registered = true
  placed : memory.region.Placed
  mapped : memory.region.mapping ∈ machine.mappings
  described : (machine.blocks memory.block).Describes memory.region

structure Ownership (held : Holdings) (machine : Machine) : Prop where
  housed : ∀ {owner memory}, held owner = some memory → Housed memory machine
  apart : ∀ {owner other memory further}, owner ≠ other → held owner = some memory →
    held other = some further → memory.region.mapping.Apart further.region.mapping
  linked : machine.registry.Linked machine.blocks
  members : ∀ block, block ∈ machine.registry.members machine.blocks ↔
    ∃ owner memory, held owner = some memory ∧ memory.block = block

/-- An operation after which everybody has what they had, undisturbed. -/
structure Keeps (held : Holdings) (before after : Machine) : Prop where
  sound : Ownership held after
  page : after.page = before.page
  kept : ∀ {owner memory}, held owner = some memory → Undisturbed memory.region before after

/-- An operation after which one owner has other memory, or none, and nobody else is disturbed. -/
structure Rehouses (owner : Owner) (held : Holdings) (before : Machine)
    (now : Option ThreadMemory) (after : Machine) : Prop where
  sound : Ownership (held.set owner now) after
  page : after.page = before.page
  others : ∀ {other memory}, other ≠ owner → held other = some memory →
    Undisturbed memory.region before after

section

variable {owner other : Owner} {held : Holdings} {memory further : ThreadMemory}
  {machine before between after : Machine}

theorem Ownership.blocks_differ (sound : Ownership held machine) (different : owner ≠ other)
    (mine : held owner = some memory) (others : held other = some further) :
    memory.block ≠ further.block :=
  Region.blocks_differ (sound.housed mine).placed (sound.housed others).placed
    (sound.apart different mine others)

theorem Ownership.listed (sound : Ownership held machine) (mine : held owner = some memory) :
    memory.block ∈ machine.registry.members machine.blocks :=
  (sound.members memory.block).mpr ⟨owner, memory, mine, rfl⟩

theorem Ownership.steady (sound : Ownership held before) (mappings : after.mappings = before.mappings)
    (registry : after.registry = before.registry)
    (blocks : ∀ block, (after.blocks block).layout = (before.blocks block).layout) :
    Ownership held after := by
  obtain ⟨linked, members⟩ := Registry.linked_transport sound.linked fun block _ =>
    ControlBlock.layout_next (blocks block)
  refine ⟨?_, sound.apart, by rwa [registry], ?_⟩
  · intro owner further mine
    have house := sound.housed mine
    refine ⟨house.registered, house.placed, by rw [mappings]; exact house.mapped, ?_⟩
    rw [← ControlBlock.describes_layout, blocks, ControlBlock.describes_layout]
    exact house.described
  · intro block
    rw [registry, members]
    exact sound.members block

theorem Ownership.relabel (sound : Ownership held machine)
    (names : Equiv.Perm Owner) : Ownership (held ∘ names) machine := by
  refine ⟨sound.housed, fun different => sound.apart (names.injective.ne different), sound.linked,
    fun block => ?_⟩
  rw [sound.members]
  constructor
  · rintro ⟨owner, memory, mine, same⟩
    exact ⟨names.symm owner, memory, by simpa using mine, same⟩
  · rintro ⟨owner, memory, mine, same⟩
    exact ⟨names owner, memory, mine, same⟩

theorem Keeps.refl (sound : Ownership held machine) : Keeps held machine machine :=
  ⟨sound, rfl, fun _ => .refl _ machine⟩

theorem Keeps.trans (first : Keeps held before between) (second : Keeps held between after) :
    Keeps held before after :=
  ⟨second.sound, second.page.trans first.page, fun mine =>
    (first.kept mine).trans (second.kept mine)⟩

theorem Keeps.rehouses (owner : Owner) (keeps : Keeps held before after) :
    Rehouses owner held before (held owner) after :=
  ⟨by rw [Cells.set_self]; exact keeps.sound, keeps.page, fun _ theirs => keeps.kept theirs⟩

theorem Rehouses.trans {first second : Option ThreadMemory}
    (leaves : Rehouses owner held before first between)
    (takes : Rehouses owner (held.set owner first) between second after) :
    Rehouses owner held before second after := by
  refine ⟨?_, takes.page.trans leaves.page, ?_⟩
  · have sound := takes.sound
    rwa [Cells.set_set] at sound
  · intro owner further different theirs
    refine (leaves.others different theirs).trans (takes.others different ?_)
    rwa [Cells.set_other _ _ different]

theorem Ownership.keeps (sound : Ownership held before) (mappings : after.mappings = before.mappings)
    (registry : after.registry = before.registry) (blocks : after.blocks = before.blocks)
    (arenas : after.arenas = before.arenas) (bytes : after.memory = before.memory)
    (page : after.page = before.page) : Keeps held before after := by
  refine ⟨sound.steady mappings registry fun block => by rw [blocks], page,
    fun _ => ⟨?_, ?_, ?_, ?_, ?_⟩⟩
  · rw [blocks]
  · rw [arenas]
  · intro address _ _
    rw [bytes]
  · rw [mappings]; exact id
  · rw [registry, blocks]; exact id

theorem Ownership.emit (sound : Ownership held machine) (event : Event) :
    Keeps held machine (machine.emit event) := sound.keeps rfl rfl rfl rfl rfl rfl

end

end ArenaThreads
