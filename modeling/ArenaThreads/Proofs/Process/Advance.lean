import ArenaThreads.Proofs.Process.Ownership
/-!
What one step of a thread can do: it changes its own control block in one of seven ways and leaves
all others, the mappings and the registry as they are.
-/

namespace ArenaThreads

def Stage.Shows (block : ControlBlock) : Stage → Prop
  | .entering | .announcing => block.state = .ready
  | .running _ | .returning _ | .stopping => block.state = .running
  | .exiting => block.state = .stopped

inductive Advance (block : ControlBlock) : Stage → Option Stage → ControlBlock → Prop
  | enter : Advance block .entering (some .announcing) { block with current := block.context }
  | announce :
    Advance block .announcing (some (.running (block.function.body block.argument)))
      { block with state := .running }
  | run {rest : Routine} (next : Routine) (context : Nat) (going : ∀ value, rest ≠ .done value) :
    Advance block (.running rest) (some (.running next)) { block with current := context }
  | finish (result : Nat) :
    Advance block (.running (.done result)) (some (.returning result)) block
  | write (result : Nat) :
    Advance block (.returning result) (some .stopping) { block with result := result }
  | stop : Advance block .stopping (some .exiting) { block with state := .stopped }
  | clear : Advance block .exiting none { block with joinWord := 0 }

/-- What changes at most the control block at one place, and not its layout. -/
structure Steady (place : Nat) (before after : Machine) : Prop where
  mappings : after.mappings = before.mappings
  registry : after.registry = before.registry
  page : after.page = before.page
  blocks : ∀ block, block ≠ place → after.blocks block = before.blocks block
  layout : (after.blocks place).layout = (before.blocks place).layout

structure SparesBlocks (before after : Machine) : Prop where
  mappings : after.mappings = before.mappings
  registry : after.registry = before.registry
  page : after.page = before.page
  blocks : after.blocks = before.blocks

structure Quiet (before after : Machine) : Prop where
  arenas : after.arenas = before.arenas
  bytes : after.memory = before.memory

section

variable {held : Holdings} {machine before after : Machine} {thread : RuntimeThread}
  {stage : Option Stage} {place : Nat} {owner : Owner} {memory : ThreadMemory}

theorem Steady.layouts (steady : Steady place before after) (block : Nat) :
    (after.blocks block).layout = (before.blocks block).layout := by
  by_cases same : block = place
  · rw [same]
    exact steady.layout
  · rw [steady.blocks block same]

theorem Steady.ownership (steady : Steady place before after) (sound : Ownership held before) :
    Ownership held after :=
  sound.steady steady.mappings steady.registry steady.layouts

theorem Steady.members (steady : Steady place before after) (sound : Ownership held before) :
    after.registry.members after.blocks = before.registry.members before.blocks := by
  rw [steady.registry]
  exact (Registry.linked_transport sound.linked fun block _ =>
    ControlBlock.layout_next (steady.layouts block)).2

theorem Steady.emit (steady : Steady place before after) (event : Event) :
    Steady place before (after.emit event) :=
  ⟨steady.mappings, steady.registry, steady.page, steady.blocks, steady.layout⟩

theorem Advance.ends {start finish : ControlBlock} {last : Stage}
    (advance : Advance start last none finish) : last = .exiting := by
  cases advance
  rfl

theorem updateBlock_steady {change : ControlBlock → ControlBlock}
    (layout : (change (machine.blocks place)).layout = (machine.blocks place).layout) :
    Steady place machine (machine.updateBlock place change) := by
  refine ⟨rfl, rfl, rfl, fun block different => Cells.set_other _ _ different, ?_⟩
  simpa [Machine.updateBlock] using layout

theorem updateBlock_same (change : ControlBlock → ControlBlock) :
    (machine.updateBlock place change).blocks place = change (machine.blocks place) :=
  Cells.set_same ..

theorem SparesBlocks.steady (spares : SparesBlocks before after) : Steady place before after :=
  ⟨spares.mappings, spares.registry, spares.page, fun _ _ => by rw [spares.blocks],
    by rw [spares.blocks]⟩

theorem Housed.holds (house : Housed memory machine) (address : Nat) :
    (machine.blocks memory.block).holds address = true ↔
      memory.region.stackLow ≤ address ∧ address < memory.block := by
  rw [ControlBlock.holds, house.described.low, house.described.high, Bool.and_eq_true,
    decide_eq_true_eq, decide_eq_true_eq]
  rfl

theorem Ownership.slot (sound : Ownership held machine) (mine : held owner = some memory)
    (caller : Caller) (stack : caller.stack = memory.block - 1) :
    machine.slot caller = some memory.block := by
  have house := sound.housed mine
  have listed := sound.listed mine
  have inside : memory.region.stackLow < memory.block := (Region.block_inside house.placed).1
  have own := (house.holds caller.stack).mpr (by omega)
  have occupied : machine.registry.live ≠ 0 := by
    rw [← sound.linked.count]
    exact Nat.ne_of_gt (List.length_pos_of_mem listed)
  rw [Machine.slot, Registry.lookup, if_neg occupied]
  cases found : (machine.registry.members machine.blocks).find? fun member =>
      (machine.blocks member).holds caller.stack with
  | none => exact absurd own (List.find?_eq_none.mp found _ listed)
  | some member =>
    obtain ⟨other, further, theirs, rfl⟩ :=
      (sound.members member).mp (List.mem_of_find?_eq_some found)
    by_cases same : other = owner
    · subst same
      cases mine.symm.trans theirs
      rfl
    · have home := sound.housed theirs
      have met := List.find?_some found
      have within := (home.holds caller.stack).mp met
      have low : memory.region.stackLow ≤ caller.stack := by omega
      have high : caller.stack ≤ memory.block := by omega
      have outside := Region.stacks_apart house.placed home.placed
        (sound.apart (Ne.symm same) mine theirs) low high
      exact absurd within (by simp only [ThreadMemory.block]; omega)

theorem setCurrent_steady {caller : Caller} (context : Nat)
    (slot : machine.slot caller = some place) :
    Steady place machine (machine.setCurrent caller context).2 ∧
      (machine.setCurrent caller context).2.blocks place =
        { machine.blocks place with current := context } := by
  have slotted : machine.setSlot place context =
      machine.updateBlock place fun block => { block with current := context } := rfl
  have swapped : Steady place machine (machine.setSlot place context) := by
    rw [slotted]
    exact updateBlock_steady rfl
  have same : (machine.setSlot place context).blocks place =
      { machine.blocks place with current := context } := Cells.set_same ..
  unfold Machine.setCurrent
  rw [slot]
  dsimp only
  split
  · exact ⟨swapped, same⟩
  · exact ⟨⟨swapped.mappings, swapped.registry, swapped.page, swapped.blocks, swapped.layout⟩, same⟩

theorem resize_spares {answers : HeapAnswers} (allocator : Allocator) (block : Option Nat)
    (oldSize newSize : Nat) :
    SparesBlocks machine (machine.resize allocator block oldSize newSize answers).2 := by
  unfold Machine.resize Machine.heapRequest
  repeat' split
  all_goals exact ⟨rfl, rfl, rfl, rfl⟩

theorem fillUp_spares (allocator : Allocator) (size : Nat) :
    SparesBlocks machine (machine.fillUp allocator size).2 := by
  unfold Machine.fillUp
  split <;> exact ⟨rfl, rfl, rfl, rfl⟩

theorem runStep_steady {answers : HeapAnswers} {rest next : Routine}
    (stepped : machine.runStep thread.caller answers rest = some (next, after))
    (slot : machine.slot thread.caller = some place) :
    Steady place machine after ∧
      ∃ context, after.blocks place = { machine.blocks place with current := context } := by
  have still {after : Machine} (spares : SparesBlocks machine after) :
      Steady place machine after ∧
        ∃ context, after.blocks place = { machine.blocks place with current := context } :=
    ⟨spares.steady, (machine.blocks place).current, by rw [spares.blocks]⟩
  cases rest with
  | done result => cases stepped
  | current continuation =>
    cases stepped
    exact still ⟨rfl, rfl, rfl, rfl⟩
  | setCurrent context continuation =>
    cases stepped
    obtain ⟨steady, same⟩ := setCurrent_steady context slot
    exact ⟨steady, context, same⟩
  | resize allocator block oldSize newSize continuation =>
    cases stepped
    exact still (resize_spares allocator block oldSize newSize)
  | fillUp allocator size continuation =>
    cases stepped
    exact still (fillUp_spares allocator size)
  | read start length continuation =>
    cases stepped
    exact still ⟨rfl, rfl, rfl, rfl⟩
  | write start length bytes continuation =>
    cases stepped
    exact still ⟨rfl, rfl, rfl, rfl⟩
  | share act continuation =>
    obtain ⟨shared, -, same⟩ := Option.map_eq_some_iff.mp stepped
    cases same
    exact still ⟨rfl, rfl, rfl, rfl⟩

/-- Every step of a thread that finds its own control block is one of the seven. -/
theorem step_advance {answers : HeapAnswers}
    (stepped : thread.step answers machine = some (stage, after))
    (slot : machine.slot thread.caller = some thread.block) :
    Steady thread.block machine after ∧
      Advance (machine.blocks thread.block) thread.stage stage (after.blocks thread.block) := by
  rcases thread with ⟨region, caller, current⟩
  cases current with
  | entering =>
    cases stepped
    refine ⟨updateBlock_steady rfl, ?_⟩
    rw [updateBlock_same]
    exact .enter
  | announcing =>
    cases stepped
    refine ⟨updateBlock_steady rfl, ?_⟩
    rw [updateBlock_same]
    exact .announce
  | running rest =>
    cases rest with
    | done result =>
      cases stepped
      exact ⟨SparesBlocks.steady ⟨rfl, rfl, rfl, rfl⟩, .finish result⟩
    | _ =>
      rw [RuntimeThread.step] at stepped
      obtain ⟨⟨next, reached⟩, ran, same⟩ := Option.map_eq_some_iff.mp stepped
      cases same
      obtain ⟨steady, context, block⟩ := runStep_steady ran slot
      refine ⟨steady, ?_⟩
      rw [block]
      exact .run next context nofun
  | returning result =>
    cases stepped
    refine ⟨updateBlock_steady rfl, ?_⟩
    rw [updateBlock_same]
    exact .write result
  | stopping =>
    cases stepped
    refine ⟨updateBlock_steady rfl, ?_⟩
    rw [updateBlock_same]
    exact .stop
  | exiting =>
    cases stepped
    refine ⟨updateBlock_steady rfl, ?_⟩
    rw [updateBlock_same]
    exact .clear

end

end ArenaThreads
