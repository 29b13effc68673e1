import ArenaThreads.Proofs.Process.FailedCreate
/-!
The layout of a new region, for page sizes and sizes of any kind. Nothing here asks that a page be a
power of two or a multiple of an alignment: the control block goes as high as it can below the
storage, and whether a context copy fits is a matter of the storage's own start and length.
-/

namespace ArenaThreads

/-- The guard, the usable stack, the control block and the storage follow one another from the base
of a region to its end, for a page size and rounded sizes. -/
structure Region.Parted (page : Nat) (sizing : Sizing) (region : Region) : Prop where
  guarded : region.stackLow = region.base + page
  usable : region.stackLow < region.block
  above : region.block + ControlBlock.size ≤ region.storageStart
  stored : region.storageStart = region.base + page + sizing.stack
  whole : region.storageStart + sizing.storage = region.base + region.length
  filled : 0 < sizing.storage
  aligned : region.block % ControlBlock.alignment = 0
  highest : ∀ place, place % ControlBlock.alignment = 0 →
    place + ControlBlock.size ≤ region.storageStart → place ≤ region.block
  ample : ControlBlock.size + ControlBlock.alignment ≤ sizing.stack

structure Region.Prepared (padding : Nat) (sizing : Sizing) (region : Region) (memory : ThreadMemory)
    (assignment : Assignment) (machine : Machine) : Prop where
  succeeds : (∃ ready after, memory.prepare assignment machine = (.ok ready, after)) ↔
    padding + Context.size ≤ sizing.storage
  fails : ∀ error after, memory.prepare assignment machine = (.error error, after) →
    error = .outOfMemory
  copied : ∀ ready after, memory.prepare assignment machine = (.ok ready, after) →
    after.contextAt (region.storageStart + padding) = ⟨.arena region.block⟩
  shown : ∀ ready after (handle : Handle), memory.prepare assignment machine = (.ok ready, after) →
    handle.memory = some ready →
      handle.threadContext? after = some (region.storageStart + padding) ∧
        handle.storage? after = some (region.storageStart, sizing.storage) ∧
        sizing.stack - 319 ≤ handle.stackSize after ∧
        handle.stackSize after ≤ sizing.stack - 256

section

variable {page base length : Nat} {sizing : Sizing} {region : Region} {memory : ThreadMemory}
  {assignment : Assignment} {machine : Machine}

/-! The control block -/

theorem Region.block_aligned (region : Region) : region.block % ControlBlock.alignment = 0 := by
  simp only [Region.block, ControlBlock.alignment]
  omega

theorem Region.block_highest (room : ControlBlock.size ≤ region.stack) {place : Nat}
    (aligned : place % ControlBlock.alignment = 0)
    (below : place + ControlBlock.size ≤ region.storageStart) : place ≤ region.block := by
  simp only [block, stackLow, storageStart, ControlBlock.size, ControlBlock.alignment] at *
  omega

theorem Region.usable_stack (room : ControlBlock.size + ControlBlock.alignment ≤ region.stack) :
    region.stack - 319 ≤ region.block - region.stackLow ∧
      region.block - region.stackLow ≤ region.stack - 256 := by
  simp only [block, stackLow, ControlBlock.size, ControlBlock.alignment] at *
  omega

theorem Sizing.storage_pos (short : page + (sizing.rounded page).storage < wordLimit) :
    0 < (sizing.rounded page).storage :=
  Pages.le_round short (Nat.le_max_right _ _) (by decide)

theorem Region.parted_of_length (fits : length? page (sizing.rounded page) = some length)
    (bounded : base + length ≤ wordLimit) :
    Region.Parted page (sizing.rounded page)
      ⟨base, length, page, (sizing.rounded page).stack, (sizing.rounded page).storage⟩ := by
  have placed := Region.placed_of_length fits bounded
  obtain ⟨⟨-, short⟩, -⟩ := Option.ite_none_right_eq_some.mp fits
  have ample : ControlBlock.size + ControlBlock.alignment ≤ (sizing.rounded page).stack :=
    Nat.le_trans (by decide) placed.roomy
  constructor
  · rfl
  · exact (Region.block_inside placed).1
  · exact (Region.block_inside placed).2
  · rfl
  · exact Region.storage_inside placed
  · exact Sizing.storage_pos (by omega)
  · exact Region.block_aligned _
  · exact fun place => Region.block_highest (Nat.le_trans (Nat.le_add_right _ _) ample)
  · exact ample

/-! Reserving -/

theorem allocate_maps {answers : MemoryAnswers} {mapped : Machine}
    (done : ThreadMemory.allocate sizing answers machine = (.ok memory, mapped)) :
    ∃ base length, Region.length? machine.page sizing = some length ∧
      memory = ⟨⟨base, length, machine.page, sizing.stack, sizing.storage⟩, false⟩ ∧
      mapped.mappings = memory.region.mapping :: machine.mappings ∧
      mapped.calls = machine.calls ++
        [.map length (.ok base), .protect base machine.page none] := by
  unfold ThreadMemory.allocate Machine.reserveRegion at done
  cases fits : Region.length? machine.page sizing with
  | none => simp [fits] at done
  | some length =>
    cases answered : answers.map length with
    | error error => simp [fits, answered, Machine.map] at done
    | ok base =>
      cases failed : answers.protect with
      | some error => simp [fits, answered, failed, Machine.map] at done
      | none =>
        simp only [fits, answered, failed, Machine.map, Machine.protect] at done
        obtain ⟨rfl, rfl⟩ := Prod.mk.inj done |>.imp Except.ok.inj id
        refine ⟨base, length, rfl, rfl, rfl, ?_⟩
        simp [Machine.called]

/-! Preparing -/

theorem ThreadMemory.roomy_iff (real : memory.region.storageStart ≠ 0) :
    memory.roomy = true ↔
      Arena.padding memory.region.storageStart + Context.size ≤ memory.region.storage := by
  rw [roomy, Arena.fits_iff]
  simp only [freshArena, Arena.borrowed, Context.size]
  omega

theorem ThreadMemory.prepared_block {ready : ThreadMemory} {after : Machine}
    (done : memory.prepare assignment machine = (.ok ready, after)) :
    ready.block = memory.block ∧
      (after.blocks memory.block).detached = memory.readyBlock assignment := by
  cases room : memory.roomy with
  | false =>
    rw [prepare_tight room] at done
    cases done
  | true =>
    rw [prepare_roomy room] at done
    cases done
    refine ⟨rfl, (Registry.register_detached _).trans ?_⟩
    dsimp only
    rw [Cells.set_same]
    rfl

theorem ThreadMemory.prepared_context {ready : ThreadMemory} {after : Machine}
    (done : memory.prepare assignment machine = (.ok ready, after))
    (word : memory.block < wordLimit) :
    after.contextAt
        (memory.region.storageStart + Arena.padding memory.region.storageStart) =
      ⟨.arena memory.block⟩ := by
  cases room : memory.roomy with
  | false =>
    rw [prepare_tight room] at done
    cases done
  | true =>
    rw [prepare_roomy room] at done
    cases done
    exact Context.load_store ⟨.arena memory.block⟩ _ _ word

theorem ThreadMemory.prepare_succeeds_iff :
    (∃ ready after, memory.prepare assignment machine = (.ok ready, after)) ↔
      memory.roomy = true := by
  constructor
  · intro succeeds
    obtain ⟨ready, after, done⟩ := succeeds
    by_contra tight
    rw [prepare_tight (Bool.eq_false_iff.mpr tight)] at done
    cases done
  · intro room
    exact ⟨_, _, prepare_roomy room⟩

theorem ThreadMemory.prepare_failed {error : OsError} {after : Machine}
    (failed : memory.prepare assignment machine = (.error error, after)) :
    error = .outOfMemory := by
  cases room : memory.roomy with
  | true =>
    rw [prepare_roomy room] at failed
    cases failed
  | false =>
    rw [prepare_tight room] at failed
    cases failed
    rfl

theorem ThreadMemory.prepared_shown {ready : ThreadMemory} {after : Machine} {handle : Handle}
    (done : memory.prepare assignment machine = (.ok ready, after))
    (has : handle.memory = some ready) :
    handle.threadContext? after =
        some (memory.region.storageStart + Arena.padding memory.region.storageStart) ∧
      handle.storage? after = some (memory.region.storageStart, memory.region.storage) ∧
      handle.stackSize after = memory.region.block - memory.region.stackLow := by
  obtain ⟨place, block⟩ := prepared_block done
  have shown : handle.block? after = some (after.blocks memory.block) := by
    rw [Handle.block?, has, Option.map_some, place]
  have context : (after.blocks memory.block).context =
      memory.region.storageStart + Arena.padding memory.region.storageStart :=
    congrArg ControlBlock.context block
  have start : (after.blocks memory.block).storage = memory.region.storageStart :=
    congrArg ControlBlock.storage block
  have bytes : (after.blocks memory.block).storageSize = memory.region.storage :=
    congrArg ControlBlock.storageSize block
  have free : (after.blocks memory.block).stackSize =
      memory.region.block - memory.region.stackLow := congrArg ControlBlock.stackSize block
  rw [Handle.threadContext?, Handle.storage?, Handle.stackSize, shown]
  simp only [Option.map_some, Option.getD_some, context, start, bytes, free, and_self]

theorem Region.Parted.prepared (parted : region.Parted page sizing)
    (bounded : region.base + region.length ≤ wordLimit) (sized : region.fits sizing = true)
    (same : memory.region = region) (assignment : Assignment) (machine : Machine) :
    region.Prepared (Arena.padding region.storageStart) sizing memory assignment machine := by
  subst same
  obtain ⟨stack, storage⟩ : memory.region.stack = sizing.stack ∧
      memory.region.storage = sizing.storage := by simpa [Region.fits] using sized
  have usable := parted.usable
  have above := parted.above
  have whole := parted.whole
  have filled := parted.filled
  constructor
  · rw [← storage, ← ThreadMemory.roomy_iff (by omega)]
    exact ThreadMemory.prepare_succeeds_iff
  · intro error after
    exact ThreadMemory.prepare_failed
  · intro ready after done
    apply ThreadMemory.prepared_context done
    change memory.region.block < wordLimit
    omega
  · intro ready after handle done has
    obtain ⟨context, start, free⟩ := ThreadMemory.prepared_shown done has
    rw [free, ← storage, ← stack]
    exact ⟨context, start, Region.usable_stack (stack ▸ parted.ample)⟩

end

structure LaidOut (page : Nat) (sizing : Sizing) (memory : ThreadMemory) (before after : Machine) :
    Prop where
  short : page + sizing.stack + sizing.storage < wordLimit
  length : memory.region.length = page + sizing.stack + sizing.storage
  mapped : after.mappings = ⟨memory.region.base, memory.region.length⟩ :: before.mappings
  calls : after.calls = before.calls ++
    [.map memory.region.length (.ok memory.region.base), .protect memory.region.base page none]
  parted : memory.region.Parted page sizing
  prepared : ∃ padding < Arena.alignment,
    (memory.region.storageStart + padding) % Arena.alignment = 0 ∧
      ∀ again : ThreadMemory, again.region = memory.region → ∀ assignment machine,
        memory.region.Prepared padding sizing again assignment machine

/-- For every page size and all sizes: when the length of a region would not fit a word, the system
is out of memory before it is asked for any; and every region that the system gives, wherever that
does not leave the address space, is laid out as it should be. -/
theorem regions_laid_out (sizing : Sizing) (answers : MemoryAnswers) (machine : Machine) :
    (wordLimit ≤ machine.page + (sizing.rounded machine.page).stack +
        (sizing.rounded machine.page).storage →
      ThreadMemory.allocate (sizing.rounded machine.page) answers machine =
        (.error .outOfMemory, machine)) ∧
    ∀ memory mapped,
      ThreadMemory.allocate (sizing.rounded machine.page) answers machine = (.ok memory, mapped) →
      memory.region.base + memory.region.length ≤ wordLimit →
      LaidOut machine.page (sizing.rounded machine.page) memory machine mapped := by
  constructor
  · intro long
    rw [ThreadMemory.allocate, Machine.reserveRegion, Region.length?_of_long long]
  · intro memory mapped done bounded
    obtain ⟨base, length, fits, rfl, mappings, calls⟩ := allocate_maps done
    obtain ⟨⟨-, short⟩, total⟩ := Option.ite_none_right_eq_some.mp fits
    have parted := Region.parted_of_length fits bounded
    refine ⟨short, (Option.some.inj total).symm, mappings, calls, parted, _,
      Arena.padding_lt _, Arena.aligned_add_padding _, ?_⟩
    intro again same
    exact parted.prepared bounded (by simp [Region.fits]) same

theorem regions_laid_out_odd :
    let machine : Machine := { page := 3 }
    let sizing : Sizing := ⟨1, 21⟩
    let answers := MemoryAnswers.upTo 65536 (2 ^ 30)
    let memory : ThreadMemory := ⟨⟨65536, 16408, 3, 16384, 21⟩, false⟩
    ∃ mapped, ThreadMemory.allocate (sizing.rounded machine.page) answers machine =
        (.ok memory, mapped) ∧
      memory.region.base + memory.region.length ≤ wordLimit ∧
      LaidOut machine.page (sizing.rounded machine.page) memory machine mapped := by
  intro machine sizing answers memory
  have had : (ThreadMemory.allocate (sizing.rounded machine.page) answers machine).1 =
      .ok memory := by decide
  have done : ThreadMemory.allocate (sizing.rounded machine.page) answers machine =
      (.ok memory, (ThreadMemory.allocate (sizing.rounded machine.page) answers machine).2) :=
    Prod.ext had rfl
  have bounded : memory.region.base + memory.region.length ≤ wordLimit := by decide
  exact ⟨_, done, bounded, (regions_laid_out sizing answers machine).2 _ _ done bounded⟩

end ArenaThreads
