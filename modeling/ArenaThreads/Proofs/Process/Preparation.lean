import ArenaThreads.Proofs.Process.Housing
/-!
Reserving, preparing and releasing the memory of a thread: who has it afterwards, and that nobody
else is disturbed.
-/

namespace ArenaThreads

variable {owner : Owner} {held : Holdings} {memory : ThreadMemory} {machine : Machine}
  {assignment : Assignment} {sizing : Sizing}

/-- Memory that can be prepared for an owner: what it has, or vacant memory when it has none. -/
inductive Available (owner : Owner) (held : Holdings) (memory : ThreadMemory)
    (machine : Machine) : Prop
  | mine (mine : held owner = some memory)
  | vacant (nothing : held owner = none) (unregistered : memory.registered = false)
      (vacant : Vacant held memory.region machine)

theorem vacant_of_left (sound : Ownership held machine) (mine : held owner = some memory) :
    Vacant (held.set owner none) memory.region machine := by
  refine ⟨(sound.housed mine).placed, (sound.housed mine).mapped, fun theirs => ?_⟩
  rcases held_set.mp theirs with ⟨-, same⟩ | ⟨different, theirs⟩
  · cases same
  · exact sound.apart different.symm mine theirs

theorem withdraw_rehouses (sound : Ownership held machine)
    (available : Available owner held memory machine) :
    Rehouses owner held machine none (memory.withdraw machine) ∧
      Vacant (held.set owner none) memory.region (memory.withdraw machine) := by
  cases available with
  | mine mine =>
    have left := vacant_of_left sound mine
    rw [ThreadMemory.withdraw, if_pos (sound.housed mine).registered]
    exact ⟨unregister_rehouses sound mine, left.placed, left.mapped, left.apart⟩
  | vacant nothing unregistered vacant =>
    have same : held.set owner none = held := by rw [← nothing, Cells.set_self]
    rw [ThreadMemory.withdraw, unregistered, same]
    exact ⟨nothing ▸ (Keeps.refl sound).rehouses owner, vacant⟩

theorem Vacant.unmap_keeps (vacant : Vacant held memory.region machine)
    (sound : Ownership held machine) : Keeps held machine (machine.unmap memory.region.mapping) :=
  ArenaThreads.unmap_keeps sound fun mine same =>
    Region.mapping_differs vacant.placed (vacant.apart mine) same.symm

theorem release_rehouses (sound : Ownership held machine)
    (available : Available owner held memory machine) :
    Rehouses owner held machine none (memory.release machine) := by
  obtain ⟨withdrawn, vacant⟩ := withdraw_rehouses sound available
  have unmapped := (vacant.unmap_keeps withdrawn.sound).rehouses owner
  rw [Cells.set_same] at unmapped
  exact withdrawn.trans unmapped

/-! Preparing -/

namespace ThreadMemory

def readyBlock (assignment : Assignment) (memory : ThreadMemory) : ControlBlock :=
  { memory.freshBlock assignment with
    context := memory.region.storageStart + Arena.padding memory.region.storageStart }

theorem readyBlock_describes : (memory.readyBlock assignment).Describes memory.region :=
  ⟨rfl, rfl, rfl, rfl, rfl, rfl⟩

def roomy (memory : ThreadMemory) : Bool := memory.freshArena.fits Context.size

theorem prepare_roomy (room : memory.roomy = true) :
    memory.prepare assignment machine =
      (.ok { memory with registered := true },
        Machine.register memory.block { memory.withdraw machine with
          blocks := (memory.withdraw machine).blocks.set memory.block (memory.readyBlock assignment)
          arenas := (memory.withdraw machine).arenas.set memory.block
            (memory.freshArena.take Context.size)
          memory := Context.store { assignment.context with allocator := .arena memory.block }
            (memory.region.storageStart + Arena.padding memory.region.storageStart)
            (memory.withdraw machine).memory }) := by
  simp only [prepare, Arena.alloc_of_fits room, Machine.storeContext, Cells.set_set]
  rfl

theorem prepare_tight (tight : memory.roomy = false) :
    memory.prepare assignment machine =
      (.error .outOfMemory, { memory.withdraw machine with
        blocks := (memory.withdraw machine).blocks.set memory.block (memory.freshBlock assignment)
        arenas := (memory.withdraw machine).arenas.set memory.block memory.freshArena }) := by
  simp only [prepare, Arena.alloc_of_not_fits tight]

theorem roomy_bound (room : memory.roomy = true) :
    memory.region.storageStart + Arena.padding memory.region.storageStart + Context.size ≤
      memory.region.storageStart + memory.region.storage :=
  ((Arena.fits_iff _ _).mp room).2.2

end ThreadMemory

theorem prepare_rehouses (assignment : Assignment) (sound : Ownership held machine)
    (available : Available owner held memory machine) (room : memory.roomy = true) :
    ∃ after, memory.prepare assignment machine = (.ok ⟨memory.region, true⟩, after) ∧
      Rehouses owner held machine (some ⟨memory.region, true⟩) after ∧
      (after.blocks memory.region.block).detached = memory.readyBlock assignment := by
  obtain ⟨withdrawn, vacant⟩ := withdraw_rehouses sound available
  have bound := ThreadMemory.roomy_bound room
  have filled := Region.storage_inside vacant.placed
  have outside (address : Nat) (outside : address < memory.region.base ∨
      memory.region.base + memory.region.length ≤ address) :
      Context.store { assignment.context with allocator := .arena memory.block }
        (memory.region.storageStart + Arena.padding memory.region.storageStart)
        (memory.withdraw machine).memory address = (memory.withdraw machine).memory address := by
    apply Memory.write_outside _ _
    have low : memory.region.base ≤ memory.region.storageStart := by
      simp only [Region.storageStart]
      omega
    omega
  have furnished := furnish_keeps (memory.readyBlock assignment)
    (memory.freshArena.take Context.size) withdrawn.sound vacant outside
  refine ⟨_, ThreadMemory.prepare_roomy room, ?_, ?_⟩
  · have settled := furnished.rehouses owner
    rw [Cells.set_same] at settled
    have moved := withdrawn.trans settled
    refine moved.trans (register_rehouses moved.sound ?_ (Cells.set_same ..) ?_)
    · exact ⟨vacant.placed, vacant.mapped, vacant.apart⟩
    · dsimp only [ThreadMemory.block]
      rw [Cells.set_same]
      exact ThreadMemory.readyBlock_describes
  · apply (Registry.register_detached _).trans
    dsimp only [ThreadMemory.block]
    rw [Cells.set_same]
    rfl

theorem prepare_fails (assignment : Assignment) (sound : Ownership held machine)
    (available : Available owner held memory machine) (tight : memory.roomy = false) :
    ∃ after, memory.prepare assignment machine = (.error .outOfMemory, after) ∧
      Rehouses owner held machine none after ∧
      Vacant (held.set owner none) memory.region after := by
  obtain ⟨withdrawn, vacant⟩ := withdraw_rehouses sound available
  have furnished := furnish_keeps (memory.freshBlock assignment) memory.freshArena withdrawn.sound
    vacant fun _ _ => rfl
  have settled := furnished.rehouses owner
  rw [Cells.set_same] at settled
  exact ⟨_, ThreadMemory.prepare_tight tight, withdrawn.trans settled, vacant.placed,
    vacant.mapped, vacant.apart⟩

/-- Storage without room for a context copy has hardly more bytes than one. -/
theorem storage_of_tight (placed : memory.region.Placed) (tight : memory.roomy = false) :
    memory.region.storage < Context.size + Arena.alignment := by
  have full : ¬memory.freshArena.fits Context.size = true := by
    rw [ThreadMemory.roomy] at tight
    simp [tight]
  have padding := Arena.padding_lt memory.region.storageStart
  have inside := (Region.block_inside placed).1
  have above := (Region.block_inside placed).2
  rw [Arena.fits_iff] at full
  simp only [ThreadMemory.freshArena, Arena.borrowed, Context.size] at *
  omega

/-! Reserving -/

theorem allocate_outcome {answers : MemoryAnswers} (sizing : Sizing) (sound : Ownership held machine)
    (lawful : answers.Lawful machine) :
    (∃ error after, ThreadMemory.allocate (sizing.rounded machine.page) answers machine =
        (.error error, after) ∧ Keeps held machine after) ∨
      ∃ region after, ThreadMemory.allocate (sizing.rounded machine.page) answers machine =
          (.ok ⟨region, false⟩, after) ∧ Keeps held machine after ∧ Vacant held region after ∧
        region.fits (sizing.rounded machine.page) = true := by
  unfold ThreadMemory.allocate Machine.reserveRegion
  cases fits : Region.length? machine.page (sizing.rounded machine.page) with
  | none => exact Or.inl ⟨.outOfMemory, machine, rfl, Keeps.refl sound⟩
  | some length =>
    cases answered : answers.map length with
    | error error =>
      refine Or.inl ⟨error, machine.called (.map length (.error error)), ?_,
        sound.keeps rfl rfl rfl rfl rfl rfl⟩
      dsimp only
      rw [answered]
      rfl
    | ok base =>
      have free := lawful length base answered
      have placed := Region.placed_of_length fits free.fits
      have mapped := map_keeps sound free
      generalize reached : (machine.map length (.ok base)).2 = between at mapped
      have there : ⟨base, length⟩ ∈ between.mappings := reached ▸ List.mem_cons_self
      have asked : machine.map length (.ok base) = (.ok base, between) := by rw [← reached]; rfl
      have asking : Keeps held between (between.protect base machine.page answers.protect) :=
        mapped.sound.keeps rfl rfl rfl rfl rfl rfl
      have guarded := mapped.trans asking
      dsimp only
      rw [answered, asked]
      cases failure : answers.protect with
      | some error =>
        rw [failure] at guarded
        -- It was nobody's when it was mapped, so to take it away again disturbs nobody.
        refine Or.inl ⟨error, _, rfl, guarded.trans (unmap_keeps guarded.sound ?_)⟩
        intro owner further mine
        have house := sound.housed mine
        exact Region.mapping_differs house.placed (Mapping.apart_symm (free.apart _ house.mapped))
      | none =>
        rw [failure] at guarded
        refine Or.inr ⟨_, _, rfl, guarded, ⟨placed, there, ?_⟩, ?_⟩
        · intro owner further mine
          exact free.apart _ (sound.housed mine).mapped
        · simp [Region.fits]

end ArenaThreads
