import ArenaThreads.Proofs.Process.Kernel
import ArenaThreads.Proofs.Process.Ownership
/-!
The single operations on memory that somebody has or may get: mapping and unmapping it, writing into
it, putting its control block into the registry and taking it out.
-/

namespace ArenaThreads

variable {owner other : Owner} {held : Holdings} {memory further : ThreadMemory}
  {region : Region} {machine : Machine}

theorem held_set {now : Option ThreadMemory} :
    held.set owner now other = some further ↔
      other = owner ∧ now = some further ∨ other ≠ owner ∧ held other = some further := by
  by_cases same : other = owner
  · simp [same]
  · simp [same, Cells.set_other _ _ same]

/-- Memory that is laid out and mapped and that nobody has. -/
structure Vacant (held : Holdings) (region : Region) (machine : Machine) : Prop where
  placed : region.Placed
  mapped : region.mapping ∈ machine.mappings
  apart : ∀ {owner further}, held owner = some further →
    region.mapping.Apart further.region.mapping

theorem Vacant.block_differs (vacant : Vacant held region machine) (sound : Ownership held machine)
    (mine : held owner = some further) : further.block ≠ region.block :=
  (Region.blocks_differ vacant.placed (sound.housed mine).placed (vacant.apart mine)).symm

theorem Vacant.unlisted (vacant : Vacant held region machine) (sound : Ownership held machine) :
    region.block ∉ machine.registry.members machine.blocks := by
  intro listed
  obtain ⟨owner, further, mine, same⟩ := (sound.members region.block).mp listed
  exact vacant.block_differs sound mine same

/-! Mapping -/

theorem map_keeps {length base : Nat} (sound : Ownership held machine)
    (free : Mapping.Free ⟨base, length⟩ machine) :
    Keeps held machine (machine.map length (.ok base)).2 := by
  have mapped {mapping : Mapping} (there : mapping ∈ machine.mappings) :
      mapping ∈ (machine.map length (.ok base)).2.mappings := List.mem_cons_of_mem _ there
  refine ⟨⟨?_, sound.apart, sound.linked, sound.members⟩, rfl, ?_⟩
  · intro owner further mine
    have house := sound.housed mine
    exact ⟨house.registered, house.placed, mapped house.mapped, house.described⟩
  · intro owner memory mine
    refine ⟨rfl, rfl, ?_, mapped, id⟩
    intro address low high
    have apart := free.apart _ (sound.housed mine).mapped
    simp only [Mapping.Apart, Region.mapping] at apart
    exact Memory.write_outside _ _ (by omega)

theorem unmap_keeps {mapping : Mapping} (sound : Ownership held machine)
    (apart : ∀ {owner further}, held owner = some further → further.region.mapping ≠ mapping) :
    Keeps held machine (machine.unmap mapping) := by
  have mapped {owner : Owner} {further : ThreadMemory} (mine : held owner = some further)
      (there : further.region.mapping ∈ machine.mappings) :
      further.region.mapping ∈ (machine.unmap mapping).mappings :=
    (List.mem_erase_of_ne (apart mine)).mpr there
  refine ⟨⟨?_, sound.apart, sound.linked, sound.members⟩, rfl, ?_⟩
  · intro owner further mine
    have house := sound.housed mine
    exact ⟨house.registered, house.placed, mapped mine house.mapped, house.described⟩
  · intro owner further mine
    exact ⟨rfl, rfl, fun _ _ _ => rfl, mapped mine, id⟩

/-! Writing and registering -/

theorem furnish_keeps (block : ControlBlock) (arena : Arena) {bytes : Memory}
    (sound : Ownership held machine) (vacant : Vacant held region machine)
    (outside : ∀ address, address < region.base ∨ region.base + region.length ≤ address →
      bytes address = machine.memory address) :
    Keeps held machine { machine with
      blocks := machine.blocks.set region.block block
      arenas := machine.arenas.set region.block arena
      memory := bytes } := by
  have blocks {owner : Owner} {further : ThreadMemory} (mine : held owner = some further) :
      (machine.blocks.set region.block block) further.region.block =
        machine.blocks further.region.block :=
    Cells.set_other _ _ (vacant.block_differs sound mine)
  have arenas {owner : Owner} {further : ThreadMemory} (mine : held owner = some further) :
      (machine.arenas.set region.block arena) further.region.block =
        machine.arenas further.region.block :=
    Cells.set_other _ _ (vacant.block_differs sound mine)
  -- Vacant memory holds no member, so the walk through the registry meets no block that is written.
  have links : ∀ member ∈ machine.registry.members machine.blocks,
      ((machine.blocks.set region.block block) member).next = (machine.blocks member).next := by
    intro member listed
    obtain ⟨owner, further, mine, rfl⟩ := (sound.members member).mp listed
    rw [ThreadMemory.block, blocks mine]
  obtain ⟨linked, members⟩ := Registry.linked_transport sound.linked links
  refine ⟨?_, rfl, ?_⟩
  · refine ⟨?_, sound.apart, linked, ?_⟩
    · intro owner further mine
      have house := sound.housed mine
      refine ⟨house.registered, house.placed, house.mapped, ?_⟩
      dsimp only [ThreadMemory.block]
      rw [blocks mine]
      exact house.described
    · intro member
      rw [members]
      exact sound.members member
  · intro owner further mine
    refine ⟨?_, ?_, ?_, id, ?_⟩
    · dsimp only
      rw [blocks mine]
    · dsimp only
      rw [arenas mine]
    · intro address low high
      have apart := vacant.apart mine
      simp only [Mapping.Apart, Region.mapping] at apart
      exact outside address (by omega)
    · rw [members]
      exact id

theorem Vacant.apart_taken (vacant : Vacant held region machine) (sound : Ownership held machine)
    {first second : Owner} {one another : ThreadMemory} (different : first ≠ second)
    (mine : held.set owner (some ⟨region, true⟩) first = some one)
    (theirs : held.set owner (some ⟨region, true⟩) second = some another) :
    one.region.mapping.Apart another.region.mapping := by
  rcases held_set.mp mine with ⟨rfl, same⟩ | ⟨-, mine⟩
  · cases same
    rcases held_set.mp theirs with ⟨rfl, -⟩ | ⟨-, theirs⟩
    · exact absurd rfl different
    · exact vacant.apart theirs
  · rcases held_set.mp theirs with ⟨-, same⟩ | ⟨-, theirs⟩
    · cases same
      exact Mapping.apart_symm (vacant.apart mine)
    · exact sound.apart different mine theirs

theorem block_taken (nothing : held owner = none) (block : Nat) :
    (block = region.block ∨ ∃ other further, held other = some further ∧ further.block = block) ↔
      ∃ other further, held.set owner (some ⟨region, true⟩) other = some further ∧
        further.block = block := by
  constructor
  · rintro (same | ⟨other, further, theirs, rfl⟩)
    · exact ⟨owner, _, held_set.mpr (Or.inl ⟨rfl, rfl⟩), same.symm⟩
    · refine ⟨other, further, held_set.mpr (Or.inr ⟨?_, theirs⟩), rfl⟩
      rintro rfl
      simp [nothing] at theirs
  · rintro ⟨other, further, theirs, rfl⟩
    rcases held_set.mp theirs with ⟨-, same⟩ | ⟨-, theirs⟩
    · cases same
      exact Or.inl rfl
    · exact Or.inr ⟨other, further, theirs, rfl⟩

theorem register_rehouses (sound : Ownership held machine) (vacant : Vacant held region machine)
    (nothing : held owner = none) (described : (machine.blocks region.block).Describes region) :
    Rehouses owner held machine (some ⟨region, true⟩) (machine.register region.block) := by
  have unlisted := vacant.unlisted sound
  obtain ⟨linked, members⟩ := Registry.register_linked sound.linked
    (Region.block_real vacant.placed) unlisted
  have detached (block : Nat) : ((machine.register region.block).blocks block).detached =
      (machine.blocks block).detached := Registry.register_detached block
  have describes {block : Nat} {further : Region}
      (before : (machine.blocks block).Describes further) :
      ((machine.register region.block).blocks block).Describes further := by
    rw [← ControlBlock.describes_detached] at before ⊢
    rwa [detached]
  change (machine.register region.block).registry.members (machine.register region.block).blocks =
    _ at members
  refine ⟨⟨?_, vacant.apart_taken sound, linked, ?_⟩, rfl, ?_⟩
  · intro taker further mine
    rcases held_set.mp mine with ⟨-, same⟩ | ⟨-, mine⟩
    · cases same
      exact ⟨rfl, vacant.placed, vacant.mapped, describes described⟩
    · have house := sound.housed mine
      exact ⟨house.registered, house.placed, house.mapped, describes house.described⟩
  · intro block
    rw [members, List.mem_cons, sound.members]
    exact block_taken nothing block
  · intro other further different theirs
    refine ⟨detached _, rfl, fun _ _ _ => rfl, id, ?_⟩
    intro listed
    rw [members]
    exact List.mem_cons_of_mem _ listed

/-! Withdrawing and releasing -/

theorem unregister_rehouses (sound : Ownership held machine) (mine : held owner = some memory) :
    Rehouses owner held machine none (machine.unregister memory.block) := by
  obtain ⟨linked, members⟩ := Registry.unregister_linked sound.linked (sound.listed mine)
  have detached (block : Nat) : ((machine.unregister memory.block).blocks block).detached =
      (machine.blocks block).detached := Registry.unregister_detached block
  change (machine.unregister memory.block).registry.members (machine.unregister memory.block).blocks =
    _ at members
  refine ⟨⟨?_, ?_, linked, ?_⟩, rfl, ?_⟩
  · intro other further theirs
    rcases held_set.mp theirs with ⟨-, same⟩ | ⟨-, theirs⟩
    · cases same
    · have house := sound.housed theirs
      refine ⟨house.registered, house.placed, house.mapped, ?_⟩
      rw [← ControlBlock.describes_detached, detached, ControlBlock.describes_detached]
      exact house.described
  · intro first second one another different mine theirs
    rcases held_set.mp mine with ⟨-, same⟩ | ⟨-, mine⟩
    · cases same
    · rcases held_set.mp theirs with ⟨-, same⟩ | ⟨-, theirs⟩
      · cases same
      · exact sound.apart different mine theirs
  · intro block
    rw [members, sound.linked.distinct.mem_erase_iff, sound.members]
    constructor
    · rintro ⟨apart, other, further, theirs, rfl⟩
      refine ⟨other, further, held_set.mpr (Or.inr ⟨?_, theirs⟩), rfl⟩
      rintro rfl
      rw [mine] at theirs
      cases theirs
      exact apart rfl
    · rintro ⟨other, further, theirs, rfl⟩
      rcases held_set.mp theirs with ⟨-, same⟩ | ⟨different, theirs⟩
      · cases same
      · exact ⟨sound.blocks_differ different theirs mine, other, further, theirs, rfl⟩
  · intro other further different theirs
    refine ⟨detached _, rfl, fun _ _ _ => rfl, id, ?_⟩
    intro listed
    rw [members]
    exact (List.mem_erase_of_ne (sound.blocks_differ different theirs mine)).mpr listed

end ArenaThreads
