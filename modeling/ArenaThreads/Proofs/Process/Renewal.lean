import ArenaThreads.Proofs.Process.FailedCreate
import ArenaThreads.Proofs.Process.TidyFunctions
import ArenaThreads.Proofs.Process.Turns
/-!
What a create that succeeds leaves in a region: all that is found there is new, whether the region has
been used before or has just been mapped.
-/

namespace ArenaThreads

/-- The region of a thread that is ready to be started. Nothing else has changed, but for the place of
its control block in the registry. -/
structure Refreshed (assignment : Assignment) (region : Region) (before after : Machine) : Prop where
  page : after.page = before.page
  block : (after.blocks region.block).detached =
    ThreadMemory.readyBlock assignment ⟨region, true⟩
  arenas : after.arenas = before.arenas.set region.block (region.arena.take Context.size)
  bytes : after.memory = Context.store ⟨.arena region.block⟩ region.copy before.memory
  listed : after.registry.members after.blocks =
    region.block :: (before.registry.members before.blocks).erase region.block
  shared : after.shared = before.shared
  known : after.cloneMissing = before.cloneMissing

/-- A handle with a thread that is ready to be started, and all that belongs to it: nothing tells of
threads that were there before. -/
structure Renewed (assignment : Assignment) (region : Region) (name : Nat) (others : List Nat)
    (system : System) : Prop where
  handle : system.handles name = .ofAssignment assignment ⟨region, true⟩
  block : (system.machine.blocks region.block).detached =
    ThreadMemory.readyBlock assignment ⟨region, true⟩
  arena : system.machine.arenas region.block = region.arena.take Context.size
  copy : system.machine.contextAt region.copy = ⟨.arena region.block⟩
  listed : system.machine.registry.members system.machine.blocks = region.block :: others
  absent : system.threadAt? region.block = none

def System.Guarded (system : System) : Prop :=
  ∀ owner memory, system.held owner = some memory → memory.region.guard = system.machine.page

section

variable {owner : Owner} {held : Holdings} {memory : ThreadMemory} {machine : Machine}
  {assignment : Assignment} {sizing : Sizing} {answers : MemoryAnswers} {base : Nat}

theorem withdraw_members (sound : Ownership held machine)
    (available : Available owner held memory machine) :
    (memory.withdraw machine).registry.members (memory.withdraw machine).blocks =
      (machine.registry.members machine.blocks).erase memory.block := by
  cases available with
  | mine mine =>
    rw [ThreadMemory.withdraw, if_pos (sound.housed mine).registered]
    exact (Registry.unregister_linked sound.linked (sound.listed mine)).2
  | vacant nothing unregistered vacant =>
    rw [ThreadMemory.withdraw, unregistered]
    exact (List.erase_of_not_mem (vacant.unlisted sound)).symm

theorem withdraw_rest : (memory.withdraw machine) = { machine with
    blocks := (memory.withdraw machine).blocks
    registry := (memory.withdraw machine).registry } := by
  unfold ThreadMemory.withdraw
  split <;> rfl

theorem adopt_refreshes (assignment : Assignment) (sizing : Sizing) (reused : Bool)
    (sound : Ownership held machine) (available : Available owner held memory machine)
    (room : memory.roomy = true) :
    ∃ after, Handle.adopt assignment sizing reused memory machine =
        (.ofAssignment assignment ⟨memory.region, true⟩, after, .ok ()) ∧
      Refreshed assignment memory.region machine after := by
  obtain ⟨withdrawn, vacant⟩ := withdraw_rehouses sound available
  have unlisted := vacant.unlisted withdrawn.sound
  have rest := @withdraw_rest memory machine
  have members := withdraw_members sound available
  rw [Handle.adopt, ThreadMemory.prepare_roomy room]
  refine ⟨_, rfl, ?_⟩
  generalize memory.withdraw machine = between at withdrawn unlisted rest members ⊢
  -- The new block is not a member yet, so writing it leaves all links as they are.
  have links : ∀ member ∈ between.registry.members between.blocks,
      ((between.blocks.set memory.block (memory.readyBlock assignment)) member).next =
        (between.blocks member).next := by
    intro member listed
    have other : member ≠ memory.block := by
      intro same
      rw [same] at listed
      exact unlisted listed
    rw [Cells.set_other _ _ other]
  obtain ⟨linked, same⟩ := Registry.linked_transport withdrawn.sound.linked links
  have fresh := unlisted
  rw [← same] at fresh
  have listed := (Registry.register_linked linked (Region.block_real vacant.placed) fresh).2
  rw [same, members] at listed
  refine ⟨?_, ?_, ?_, ?_, listed, ?_, ?_⟩
  · rw [rest]
    rfl
  · dsimp only [Machine.emit, Machine.register, ThreadMemory.block]
    rw [Registry.register_detached, Cells.set_same]
    rfl
  · dsimp only [Machine.emit, Machine.register]
    rw [rest]
    rfl
  · dsimp only [Machine.emit, Machine.register]
    rw [rest]
    rfl
  · rw [rest]
    rfl
  · rw [rest]
    rfl

theorem allocate_done {region : Region} (placed : region.Placed) (short : region.length < wordLimit)
    (fits : region.fits sizing = true) (guard : region.guard = machine.page)
    (mapped : answers.map region.length = .ok region.base) (guarded : answers.protect = none) :
    ThreadMemory.allocate sizing answers machine =
      (.ok ⟨region, false⟩,
        (machine.map region.length (.ok region.base)).2.protect region.base machine.page none) := by
  have whole := placed.whole
  simp only [Region.fits, Bool.and_eq_true, decide_eq_true_eq] at fits
  rw [guard, fits.1, fits.2] at whole
  rw [ThreadMemory.allocate, Machine.reserveRegion, Region.length?_of_short (whole ▸ short)]
  dsimp only
  rw [← whole, mapped, guarded, ← guard, ← fits.1, ← fits.2]
  rfl

theorem Refreshed.renewed {system : System} {region : Region} {before after : Machine}
    (refreshed : Refreshed assignment region before after) (placed : region.Placed)
    (absent : system.threadAt? region.block = none) (name : Nat) :
    Renewed assignment region name
      ((before.registry.members before.blocks).erase region.block)
      (system.withHandle name (.ofAssignment assignment ⟨region, true⟩) after) := by
  have inside := (Region.block_inside placed).2
  have filled := Region.storage_inside placed
  have bounded := placed.bounded
  refine ⟨Cells.set_same .., refreshed.block, ?_, ?_, refreshed.listed, absent⟩
  · change after.arenas region.block = _
    rw [refreshed.arenas, Cells.set_same]
  · change Context.load region.copy after.memory = _
    rw [refreshed.bytes]
    apply Context.load_store
    dsimp only [Allocator.arena]
    simp only [ControlBlock.size] at inside
    omega

end

/-! Calls -/

section

variable {system : System} {name : Nat} {request : CreateRequest} {caller : Caller}
  {answers : MemoryAnswers} {memory : ThreadMemory} {move : Move}

theorem Sound.idle_absent (sound : Sound system) (idle : (system.handles name).isLive = false)
    (has : (system.handles name).memory = some memory) : system.threadAt? memory.block = none := by
  obtain ⟨state, represents⟩ := sound.handles name
  have mine : system.held (.handle name) = some memory := has
  exact (sound.crewed mine).absent_iff.mpr (represents.word idle has)

theorem Sound.free_block {region : Region} {owner : Owner} (sound : Sound system)
    (placed : region.Placed) (free : region.mapping.Free system.machine)
    (theirs : system.held owner = some memory) : memory.block ≠ region.block := by
  have house := sound.ownership.housed theirs
  exact (Region.blocks_differ placed house.placed (free.apart _ house.mapped)).symm

theorem Sound.free_absent {region : Region} (sound : Sound system) (placed : region.Placed)
    (free : region.mapping.Free system.machine) : system.threadAt? region.block = none := by
  cases found : system.threadAt? region.block with
  | none => rfl
  | some thread =>
    obtain ⟨owner, further, theirs, same⟩ := sound.owned found
    exact absurd same (sound.free_block placed free theirs)

theorem Sound.free_unlisted {region : Region} (sound : Sound system) (placed : region.Placed)
    (free : region.mapping.Free system.machine) :
    region.block ∉ system.machine.registry.members system.machine.blocks := by
  intro listed
  obtain ⟨owner, further, theirs, same⟩ := (sound.ownership.members _).mp listed
  exact absurd same (sound.free_block placed free theirs)

theorem create_reuses (sound : Sound system) (paged : Pages.Real system.machine.page)
    (idle : (system.handles name).isLive = false)
    (has : (system.handles name).memory = some memory)
    (fits : memory.region.fits (request.sizing.rounded system.machine.page) = true) :
    ∃ after, system.create name request caller answers =
        (system.withHandle name
          (.ofAssignment (request.assignment caller system.machine) ⟨memory.region, true⟩) after,
          .returned) ∧
      Refreshed (request.assignment caller system.machine) memory.region system.machine after := by
  have mine : system.held (.handle name) = some memory := has
  have placed := (sound.ownership.housed mine).placed
  have prepares : Prepares request answers (system.handles name) system.machine true memory
      system.machine := .reused idle has fits
  obtain ⟨after, adopted, refreshed⟩ := adopt_refreshes (request.assignment caller system.machine)
    (request.sizing.rounded system.machine.page) true sound.ownership (.mine mine)
    (roomy_of_fits paged placed fits)
  refine ⟨after, ?_, refreshed⟩
  rw [System.create, prepares.create, adopted]
  rfl

theorem create_maps {region : Region} (sound : Sound system)
    (paged : Pages.Real system.machine.page) (empty : system.handles name = .empty)
    (placed : region.Placed) (short : region.length < wordLimit)
    (fits : region.fits (request.sizing.rounded system.machine.page) = true)
    (guard : region.guard = system.machine.page)
    (mapped : answers.map region.length = .ok region.base) (guarded : answers.protect = none)
    (lawful : answers.Lawful system.machine) :
    ∃ after, system.create name request caller answers =
        (system.withHandle name
          (.ofAssignment (request.assignment caller system.machine) ⟨region, true⟩) after,
          .returned) ∧
      Refreshed (request.assignment caller system.machine) region
        ((system.machine.map region.length (.ok region.base)).2.protect region.base
          system.machine.page none) after := by
  have done := @allocate_done system.machine (request.sizing.rounded system.machine.page) answers
    region placed short fits guard mapped guarded
  have free := lawful _ _ mapped
  have room : (⟨region, false⟩ : ThreadMemory).roomy = true := roomy_of_fits paged placed fits
  have prepares : Prepares request answers (system.handles name) system.machine false
      ⟨region, false⟩ _ := .fresh (by rw [empty]; rfl) (by rw [empty]; rfl) done
  have nothing : system.held (.handle name) = none := by
    rw [System.held, empty]
    rfl
  have asked := map_keeps sound.ownership free
  have kept : Keeps system.held system.machine _ := asked.trans
    (asked.sound.keeps rfl rfl rfl rfl rfl rfl :
      Keeps _ _ ((system.machine.map region.length (.ok region.base)).2.protect region.base
        system.machine.page none))
  have vacant : Vacant system.held region ((system.machine.map region.length
      (.ok region.base)).2.protect region.base system.machine.page none) := by
    refine ⟨placed, List.mem_cons_self, ?_⟩
    intro owner further theirs
    exact free.apart _ (sound.ownership.housed theirs).mapped
  obtain ⟨after, adopted, refreshed⟩ := adopt_refreshes (request.assignment caller system.machine)
    (request.sizing.rounded system.machine.page) false kept.sound (.vacant nothing rfl vacant) room
  refine ⟨after, ?_, refreshed⟩
  rw [System.create, prepares.create, adopted]
  rfl

/-! Guards -/

theorem System.Guarded.step (guarded : system.Guarded) (sound : Sound system)
    (lawful : move.Lawful system) : (system.step move).1.Guarded := by
  intro owner memory mine
  rw [(step_effect sound lawful).page]
  rcases step_had mine with ⟨other, had, theirs, same⟩ | ⟨-, -, guard⟩
  · rw [← same]
    exact guarded other had theirs
  · exact guard

theorem run_guarded {moves : List Move} (fresh : system.Fresh)
    (lawful : System.LawfulRun moves system) : (system.run moves).Guarded := by
  have nobody : system.Guarded := by
    intro owner memory mine
    cases owner with
    | handle name =>
      rw [System.held, fresh.handles] at mine
      cases mine
    | abandoned index => simp [System.held, fresh.abandoned] at mine
  have kept : Sound (system.run moves) ∧ (system.run moves).Guarded := by
    apply @System.run_induction (fun reached => Sound reached ∧ reached.Guarded) _ _
      ⟨.fresh fresh, nobody⟩ lawful
    rintro reached move ⟨sound, guarded⟩ lawful
    exact ⟨(step_effect sound lawful).sound sound, guarded.step sound lawful⟩
  exact kept.2

end

end ArenaThreads
