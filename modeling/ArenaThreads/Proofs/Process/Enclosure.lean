import ArenaThreads.Proofs.Process.Turns
import ArenaThreads.Proofs.Process.TidyFunctions
/-!
Processes whose threads run tidy functions: in each state the arena over a thread's storage is in
order, its context copy names this arena, and no other thread has changed any of it.
-/

namespace ArenaThreads

def ControlBlock.routine (block : ControlBlock) : Routine := block.function.body block.argument

structure Passive (before after : Machine) : Prop where
  arenas : after.arenas = before.arenas
  bytes : after.memory = before.memory
  routines : ∀ block, (after.blocks block).routine = (before.blocks block).routine

/-- Threads are created for tidy functions, in memory that ends below the last address. -/
def Move.Orderly : Move → Prop
  | .call _ (.create request _ answers) => (request.function.body request.argument).Tidy {} ∧
      ∀ length base, answers.map length = .ok base → base + length < wordLimit
  | _ => True

/-- Each thread runs a tidy function in the arena over its own storage. -/
structure Enclosed (system : System) : Prop where
  sound : Sound system
  furnished : ∀ {owner memory}, system.held owner = some memory →
    Furnished memory.region system.machine
  current : ∀ {block thread}, system.threadAt? block = some thread → thread.stage ≠ .entering →
    (system.machine.blocks block).current = thread.region.copy
  running : ∀ {block thread rest}, system.threadAt? block = some thread →
    thread.stage = .running rest → ∃ estate, rest.Tidy estate ∧
      Serves thread.region estate system.machine

section

variable {region : Region} {machine before between after : Machine} {memory : ThreadMemory}
  {handle : Handle} {answers : MemoryAnswers} {sizing : Sizing} {assignment : Assignment}

/-! Calls that leave storage alone -/

namespace Passive

theorem refl (machine : Machine) : Passive machine machine := ⟨rfl, rfl, fun _ => rfl⟩

theorem trans (first : Passive before between) (second : Passive between after) :
    Passive before after := by
  refine ⟨second.arenas.trans first.arenas, second.bytes.trans first.bytes, ?_⟩
  intro block
  exact (second.routines block).trans (first.routines block)

theorem still (arenas : after.arenas = before.arenas) (bytes : after.memory = before.memory)
    (blocks : after.blocks = before.blocks) : Passive before after :=
  ⟨arenas, bytes, fun block => by rw [blocks]⟩

theorem register (place : Nat) (machine : Machine) : Passive machine (machine.register place) := by
  refine ⟨rfl, rfl, ?_⟩
  intro block
  have detached : ((machine.register place).blocks block).detached =
      (machine.blocks block).detached := Registry.register_detached block
  have same := congrArg ControlBlock.routine detached
  exact same

theorem withdraw (memory : ThreadMemory) (machine : Machine) :
    Passive machine (memory.withdraw machine) := by
  unfold ThreadMemory.withdraw
  split
  · refine ⟨rfl, rfl, ?_⟩
    intro block
    have detached : ((machine.unregister memory.block).blocks block).detached =
        (machine.blocks block).detached := Registry.unregister_detached block
    have same := congrArg ControlBlock.routine detached
    exact same
  · exact .refl machine

theorem release (memory : ThreadMemory) (machine : Machine) :
    Passive machine (memory.release machine) :=
  (withdraw memory machine).trans (.still rfl rfl rfl)

theorem releaseNative (handle : Handle) (machine : Machine) :
    Passive machine (handle.releaseNative machine) := by
  unfold Handle.releaseNative
  split
  · exact .refl machine
  · exact release _ machine

theorem start (answers : LaunchAnswers) (handle : Handle) (machine : Machine) :
    Passive machine (handle.start answers machine).2.1 := by
  have marked (place word : Nat) (arguments : CloneArguments) (block : Nat) :
      (machine.blocks.set place
        { machine.blocks place with joinWord := word, arguments := arguments } block).routine =
          (machine.blocks block).routine := by
    by_cases here : block = place
    · subst here
      rw [Cells.set_same]
      rfl
    · rw [Cells.set_other _ _ here]
  have launched (memory : ThreadMemory) : Passive machine (Handle.launch answers memory machine).2 := by
    unfold Handle.launch
    dsimp only
    split <;> exact ⟨rfl, rfl, marked _ _ _⟩
  unfold Handle.start
  split
  · exact .refl machine
  · split
    · exact .refl machine
    · dsimp only
      split <;> exact (launched _).trans (.still rfl rfl rfl)

theorem stopped (result : Except Error Unit) (handle : Handle) (machine : Machine) :
    Passive machine (handle.stopped result machine).2 := by
  unfold Handle.stopped
  split <;> exact .still rfl rfl rfl

theorem destroy (handle : Handle) (machine : Machine) :
    Passive machine (handle.destroy machine).2.1 := by
  unfold Handle.destroy
  split
  · exact .refl machine
  · split
    · exact .refl machine
    · have told (event : Event) : Passive machine (machine.emit event) := .still rfl rfl rfl
      exact (told _).trans (release _ _)

theorem dropped (result : Except Error Unit) (handle : Handle) (machine : Machine) :
    Passive machine (handle.dropped result machine) := by
  unfold Handle.dropped
  split
  · exact releaseNative handle machine
  · exact .still rfl rfl rfl

theorem finish (name : Nat) (purpose : JoinPurpose) (result : Except Error Unit) (system : System) :
    Passive system.machine (system.finish name purpose result).1.machine := by
  unfold System.finish
  split
  · exact stopped result _ _
  · exact dropped result _ _

theorem step {system : System} {move : Move} (control : ∀ block answers, move ≠ .thread block answers)
    (makes : ∀ name request caller answers, move ≠ .call name (.create request caller answers)) :
    Passive system.machine (system.step move).1.machine := by
  cases move with
  | thread block answers => exact absurd rfl (control block answers)
  | call name call =>
    rw [System.step]
    split
    · exact .refl _
    · cases call with
      | create request caller answers => exact absurd rfl (makes name request caller answers)
      | start caller answers =>
        have started := start answers (system.handles name) system.machine
        simp only [System.call, System.start]
        split <;> exact started
      | stop timeout now =>
        simp only [System.call, System.stop]
        split <;> exact .refl _
      | destroy => exact destroy _ _
      | drop =>
        simp only [System.call, System.drop]
        split
        · exact .refl _
        · exact releaseNative _ _
  | wake block =>
    obtain ⟨wakes, joining, same⟩ := System.wake_eq block system
    rw [System.step, same]
    exact .refl _
  | join name now refusal =>
    rw [System.step]
    rcases System.joinStep_cases name now refusal system with
      ⟨⟨waits, same⟩, -⟩ | ⟨joining, result, -, -, -, same⟩
    · rw [same]
      exact .refl _
    · rw [same]
      exact finish name joining.purpose result system
  | rouse name outcome => exact .refl _

end Passive

/-! Furnished storage -/

theorem Furnished.transport (furnished : Furnished region before)
    (arena : after.arenas region.block = before.arenas region.block)
    (bytes : ∀ i, i < Context.size →
      after.memory (region.copy + i) = before.memory (region.copy + i))
    (routine : (after.blocks region.block).routine = (before.blocks region.block).routine) :
    Furnished region after := by
  refine ⟨?_, ?_, (contextAt_congr bytes).trans furnished.copied, ?_⟩
  · rw [arena]
    exact furnished.range
  · rw [arena]
    exact furnished.kept
  · have tidy := furnished.tidy
    change (after.blocks region.block).routine.Tidy {}
    rw [routine]
    exact tidy

theorem Furnished.inside (furnished : Furnished region before) (inside : Inside region before after)
    (kept : Arena.Kept (after.arenas region.block) [region.copyBlock])
    (routine : (after.blocks region.block).routine = (before.blocks region.block).routine) :
    Furnished region after := by
  have copied := contextAt_congr fun i low => inside.bytes _ (region.copy_not_lent low)
  refine ⟨inside.range.trans furnished.range, kept, copied.trans furnished.copied, ?_⟩
  have tidy := furnished.tidy
  change (after.blocks region.block).routine.Tidy {}
  rw [routine]
  exact tidy

theorem Furnished.passive (furnished : Furnished region before) (passive : Passive before after) :
    Furnished region after := by
  refine furnished.transport ?_ ?_ (passive.routines region.block)
  · rw [passive.arenas]
  · intro i _
    rw [passive.bytes]

theorem Furnished.mapped (furnished : Furnished region machine) (placed : region.Placed) {i : Nat}
    (inside : i < Context.size) :
    region.base ≤ region.copy + i ∧ region.copy + i < region.base + region.length := by
  obtain ⟨low, high⟩ := furnished.copy_inside
  have filled := Region.storage_inside placed
  have above : region.base ≤ region.storageStart := by
    simp only [Region.storageStart]
    omega
  omega

theorem Furnished.undisturbed (furnished : Furnished region before) (placed : region.Placed)
    (undisturbed : Undisturbed region before after) : Furnished region after := by
  apply furnished.transport undisturbed.arena
  · intro i inside
    obtain ⟨low, high⟩ := furnished.mapped placed inside
    exact undisturbed.bytes _ low high
  · have same := congrArg ControlBlock.routine undisturbed.block
    exact same

theorem Furnished.word (furnished : Furnished region machine) :
    region.storageStart + region.storage < wordLimit := by
  rw [← furnished.limit]
  exact furnished.kept.word

theorem prepare_furnishes {done : ThreadMemory} (placed : memory.region.Placed)
    (word : memory.region.storageStart + memory.region.storage < wordLimit)
    (tidy : (assignment.function.body assignment.argument).Tidy {})
    (prepared : memory.prepare assignment machine = (.ok done, after)) :
    Furnished memory.region after := by
  cases room : memory.roomy with
  | false =>
    rw [ThreadMemory.prepare_tight room] at prepared
    cases prepared
  | true =>
    have inside := Region.block_inside placed
    rw [ThreadMemory.prepare_roomy room] at prepared
    cases prepared
    apply Furnished.passive _ (.register ..)
    refine ⟨?_, ?_, ?_, ?_⟩
    · dsimp only [ThreadMemory.block]
      rw [Cells.set_same]
      rfl
    · dsimp only [ThreadMemory.block]
      rw [Cells.set_same]
      have made : Arena.Kept memory.freshArena [] := (Arena.Made.borrowed _ _ word).kept
      have taken := made.alloc Context.size
      rw [Arena.alloc_of_fits room] at taken
      exact taken
    · apply Context.load_store
      dsimp only [Allocator.arena, ThreadMemory.block]
      omega
    · dsimp only [ThreadMemory.block]
      rw [Cells.set_same]
      exact tidy

theorem adopt_furnishes {made : Handle} {reused : Bool} {taken : ThreadMemory}
    (placed : memory.region.Placed)
    (word : memory.region.storageStart + memory.region.storage < wordLimit)
    (tidy : (assignment.function.body assignment.argument).Tidy {})
    (adopted : Handle.adopt assignment sizing reused memory machine = (made, after, .ok ()))
    (has : made.memory = some taken) : Furnished taken.region after := by
  unfold Handle.adopt at adopted
  cases prepared : memory.prepare assignment machine with
  | mk result reached =>
    rw [prepared] at adopted
    cases result with
    | error error => cases adopted
    | ok ready =>
      cases adopted
      have taken_region := (@adopt_region machine memory sizing assignment false taken (by
        unfold Handle.adopt
        rw [prepared]
        exact has)).1
      rw [taken_region]
      exact (prepare_furnishes placed word tidy prepared).passive (.still rfl rfl rfl)

theorem create_furnishes {held : Holdings} {request : CreateRequest} {caller : Caller} {made : Handle}
    {taken : ThreadMemory} (sound : Ownership held machine) (lawful : answers.Lawful machine)
    (ends : ∀ length base, answers.map length = .ok base → base + length < wordLimit)
    (tidy : (request.function.body request.argument).Tidy {})
    (old : ∀ memory, handle.memory = some memory → memory.region.Placed ∧
      memory.region.storageStart + memory.region.storage < wordLimit)
    (created : handle.create request caller answers machine = (made, after, .ok ()))
    (has : made.memory = some taken) : Furnished taken.region after := by
  have replaced (assignment : Assignment)
      (tidy : (assignment.function.body assignment.argument).Tidy {})
      (done : handle.replace assignment (request.sizing.rounded machine.page) answers machine =
        (made, after, .ok ())) : Furnished taken.region after := by
    unfold Handle.replace at done
    rcases allocate_outcome request.sizing sound lawful with
      ⟨error, asked, failed, -⟩ | ⟨region, mapped, allocated, -, vacant, -⟩
    · rw [failed] at done
      cases done
    · obtain ⟨answered, whole, -⟩ := allocate_region allocated
      have word := ends _ _ answered
      rw [allocated] at done
      exact adopt_furnishes vacant.placed (whole.trans_lt word) tidy done has
  unfold Handle.create at created
  split at created
  · cases created
  · dsimp only at created
    split at created
    · rename_i memory had
      split at created
      · obtain ⟨placed, word⟩ := old memory had
        exact adopt_furnishes placed word tidy created has
      · exact replaced _ tidy created
    · exact replaced _ tidy created

end

/-! Moves -/

section

variable {system : System} {move : Move} {owner : Owner} {memory : ThreadMemory} {region : Region}
  {block : Nat} {thread : RuntimeThread} {machine after : Machine} {answers : HeapAnswers}
  {stage : Option Stage}

theorem Enclosed.create (enclosed : Enclosed system) {name : Nat} {request : CreateRequest}
    {caller : Caller} {answers : MemoryAnswers}
    (lawful : answers.Lawful system.machine)
    (orderly : (Move.call name (.create request caller answers)).Orderly)
    (mine : (system.create name request caller answers).1.held owner = some memory) :
    Furnished memory.region (system.create name request caller answers).1.machine := by
  have sound := enclosed.sound.ownership
  have own : system.held (.handle name) = (system.handles name).memory := rfl
  have placed {other : Owner} {further : ThreadMemory} (theirs : system.held other = some further) :
      further.region.Placed := (sound.housed theirs).placed
  have old (further : ThreadMemory) (has : (system.handles name).memory = some further) :
      further.region.Placed ∧
        further.region.storageStart + further.region.storage < wordLimit :=
    ⟨placed (own.trans has), (enclosed.furnished (own.trans has)).word⟩
  have outcome := create_outcome request caller sound own lawful
  unfold System.create at mine ⊢
  generalize created : (system.handles name).create request caller answers system.machine = reached
    at outcome mine ⊢
  rw [System.held_withHandle] at mine
  rcases held_set.mp mine with ⟨-, has⟩ | ⟨different, theirs⟩
  · cases outcome with
    | busy live => exact enclosed.furnished (own.trans has)
    | refused idle kept =>
      exact (enclosed.furnished (own.trans has)).undisturbed (placed (own.trans has))
        (kept.kept (own.trans has))
    | lost idle moved tight => cases has
    | created idle moved sized shown =>
      exact create_furnishes sound lawful orderly.2 orderly.1 old created has
  · have before := enclosed.furnished theirs
    cases outcome with
    | busy live => exact before
    | refused idle kept => exact before.undisturbed (placed theirs) (kept.kept theirs)
    | lost idle moved tight =>
      exact before.undisturbed (placed theirs) (moved.others different theirs)
    | created idle moved sized shown =>
      exact before.undisturbed (placed theirs) (moved.others different theirs)

/-- No call on a handle, and nothing that the kernel does, leaves storage unfurnished. -/
theorem Enclosed.furnishes (enclosed : Enclosed system) (lawful : move.Lawful system)
    (orderly : move.Orderly) (control : ∀ block answers, move ≠ .thread block answers)
    (mine : (system.step move).1.held owner = some memory) :
    Furnished memory.region (system.step move).1.machine := by
  by_cases makes : ∃ name request caller answers, move = .call name (.create request caller answers)
  · obtain ⟨name, request, caller, answers, rfl⟩ := makes
    cases waiting : system.joining name with
    | some joining =>
      have refused : (system.step (.call name (.create request caller answers))).1 = system := by
        simp [System.step, waiting]
      rw [refused] at mine ⊢
      exact enclosed.furnished mine
    | none =>
      rw [System.step_call waiting] at mine ⊢
      exact enclosed.create lawful orderly mine
  · have other (name : Nat) (request : CreateRequest) (caller : Caller) (answers : MemoryAnswers) :
        move ≠ .call name (.create request caller answers) :=
      fun same => makes ⟨name, request, caller, answers, same⟩
    have maps : ¬move.Maps memory.region.mapping := by
      intro maps
      cases move with
      | call name call =>
        cases call with
        | create request caller answers => exact other name request caller answers rfl
        | _ => exact maps
      | _ => exact maps
    rcases step_had mine with ⟨further, had, theirs, same⟩ | ⟨mapped, -⟩
    · rw [← same]
      exact (enclosed.furnished theirs).passive (.step control other)
    · exact absurd mapped maps

theorem Enclosed.control (enclosed : Enclosed system) (lawful : move.Lawful system)
    (orderly : move.Orderly) (control : ∀ block answers, move ≠ .thread block answers) :
    Enclosed (system.step move).1 := by
  have effect := step_effect enclosed.sound lawful
  have stays {block : Nat} {thread : RuntimeThread}
      (found : (system.step move).1.threadAt? block = some thread) (entered : thread.stage ≠ .entering) :
      system.threadAt? block = some thread := by
    rcases effect.threadAt enclosed.sound (control block) with same | ⟨-, fresh, there, entering⟩
    · exact same.symm.trans found
    · cases found.symm.trans there
      exact absurd entering entered
  refine ⟨effect.sound enclosed.sound, enclosed.furnishes lawful orderly control, ?_, ?_⟩
  · intro block thread found entered
    have before := stays found entered
    rw [(effect.contexts enclosed.sound before (control block)).1]
    exact enclosed.current before entered
  · intro block thread rest found stage
    have before := stays found (by rw [stage]; nofun)
    obtain ⟨estate, tidy, serves⟩ := enclosed.running before stage
    obtain ⟨owner, memory, mine, rfl⟩ := enclosed.sound.owned before
    have undisturbed := effect.undisturbed enclosed.sound ⟨owner, thread, mine, before⟩ control
    have crewed := enclosed.sound.crewed mine
    rw [before] at crewed
    cases crewed with
    | present region stack word shows =>
      rw [region] at serves ⊢
      refine ⟨estate, tidy, serves.contexts, serves.allocators, ?_⟩
      rw [undisturbed.arena]
      exact serves.kept

theorem Advance.routine {start finish : ControlBlock} {last : Stage}
    (advance : Advance start last stage finish) : finish.routine = start.routine := by
  cases advance <;> rfl

structure Equipped (memory : ThreadMemory) (thread : RuntimeThread) (machine : Machine) : Prop where
  region : thread.region = memory.region
  placed : memory.region.Placed
  furnished : Furnished memory.region machine
  slot : machine.slot thread.caller = some memory.block
  describes : (machine.blocks memory.block).Describes memory.region

theorem Enclosed.equipped (enclosed : Enclosed system) (mine : system.held owner = some memory)
    (found : system.threadAt? memory.block = some thread) :
    Equipped memory thread system.machine := by
  have house := enclosed.sound.ownership.housed mine
  have crewed := enclosed.sound.crewed mine
  rw [found] at crewed
  cases crewed with
  | present region stack word shows =>
    exact ⟨region, house.placed, enclosed.furnished mine,
      enclosed.sound.ownership.slot mine thread.caller stack, house.described⟩

theorem Enclosed.current_copy (enclosed : Enclosed system) {caller : Caller}
    (found : system.threadAt? block = some thread) (entered : thread.stage ≠ .entering)
    (low : thread.region.stackLow ≤ caller.stack) (high : caller.stack < block) :
    system.machine.current caller = thread.region.copy := by
  obtain ⟨owner, memory, mine, rfl⟩ := enclosed.sound.owned found
  have equipped := enclosed.equipped mine found
  have slot := runtime_slot enclosed.sound found low high
  have shown := enclosed.current found entered
  rw [current_slot slot, shown]
  rw [shown, equipped.region]
  exact Region.copy_real equipped.placed

/-- A step of a thread changes only what its region lends, and what the thread goes on with is
tidy. -/
theorem Enclosed.advance (enclosed : Enclosed system)
    (found : system.threadAt? block = some thread)
    (stepped : thread.step answers system.machine = some (stage, after)) :
    Inside thread.region system.machine after ∧
      Arena.Kept (after.arenas thread.region.block) [thread.region.copyBlock] ∧
      ∀ rest, stage = some (.running rest) → ∃ estate, rest.Tidy estate ∧
        Serves thread.region estate after := by
  obtain ⟨low, high⟩ := runtime_stack enclosed.sound found
  have current := fun entered => enclosed.current_copy found entered low high
  have running := fun rest => @Enclosed.running _ enclosed block thread rest found
  obtain ⟨owner, memory, mine, rfl⟩ := enclosed.sound.owned found
  obtain ⟨region, placed, furnished, -, -⟩ := enclosed.equipped mine found
  rcases thread with ⟨own, caller, now⟩
  obtain rfl : own = memory.region := region
  cases now with
  | announcing =>
    cases stepped
    refine ⟨.still rfl rfl, furnished.kept, ?_⟩
    rintro rest ⟨⟩
    exact ⟨{}, furnished.tidy, .nothing furnished.kept⟩
  | running rest =>
    obtain ⟨estate, tidy, serves⟩ := running rest rfl
    cases rest with
    | done result =>
      cases stepped
      refine ⟨.refl .., furnished.kept, ?_⟩
      intro rest further
      cases further
    | _ =>
      rw [RuntimeThread.step] at stepped
      obtain ⟨⟨next, reached⟩, ran, same⟩ := Option.map_eq_some_iff.mp stepped
      cases same
      obtain ⟨inside, further, tidy, serves⟩ := runStep_inside ran furnished tidy serves
        (current (by simp)) (Region.block_real placed)
      refine ⟨inside, serves.kept.sublist (by simp), ?_⟩
      rintro rest ⟨⟩
      exact ⟨further, tidy, serves⟩
  | _ =>
    cases stepped
    refine ⟨.still rfl rfl, furnished.kept, ?_⟩
    intro rest further
    cases further

theorem Inside.elsewhere {other : Region} (inside : Inside region machine after)
    (placed : region.Placed) (further : other.Placed) (apart : region.mapping.Apart other.mapping)
    (furnished : Furnished region machine) :
    after.arenas other.block = machine.arenas other.block ∧
      ∀ address, other.base ≤ address → address < other.base + other.length →
        after.memory address = machine.memory address := by
  refine ⟨inside.arenas _ (Region.blocks_differ placed further apart).symm, ?_⟩
  intro address low high
  apply inside.bytes
  rintro ⟨behind, before⟩
  have above := furnished.copy_inside.1
  have filled := Region.storage_inside placed
  simp only [Mapping.Apart, Region.mapping, Region.storageStart] at apart above filled before
  omega

theorem Enclosed.leaves (enclosed : Enclosed system) (found : system.threadAt? block = some thread)
    (stepped : thread.step answers system.machine = some (stage, after)) :
    (after.blocks block).current = thread.region.copy := by
  have current := @Enclosed.current _ enclosed block thread found
  have running := fun rest => @Enclosed.running _ enclosed block thread rest found
  have place := System.threadAt?_block found
  obtain ⟨owner, memory, mine, rfl⟩ := enclosed.sound.owned found
  have equipped := enclosed.equipped mine found
  have slot := equipped.slot
  rw [← place] at slot
  have leaves := (step_leaves stepped slot (by
    intro entered
    rw [place, current entered, equipped.region]
    exact Region.copy_real equipped.placed)).current
  rw [place] at leaves
  rw [leaves]
  cases now : thread.stage with
  | entering =>
    rw [equipped.region]
    exact equipped.describes.context
  | running rest =>
    have shown := current (by rw [now]; nofun)
    cases rest with
    | setCurrent context next =>
      obtain ⟨estate, tidy, -⟩ := running _ now
      exact tidy.elim
    | _ => exact shown
  | _ => exact current (by rw [now]; nofun)

section

variable {owner other : Owner} {memory further : ThreadMemory}

theorem Enclosed.steady (enclosed : Enclosed system) (mine : system.held owner = some memory)
    (found : system.threadAt? memory.block = some thread)
    (stepped : thread.step answers system.machine = some (stage, after)) :
    Steady memory.block system.machine after ∧
      (after.blocks memory.block).routine = (system.machine.blocks memory.block).routine := by
  have place := System.threadAt?_block found
  have slot := (enclosed.equipped mine found).slot
  rw [← place] at slot
  obtain ⟨steady, advance⟩ := step_advance stepped slot
  rw [place] at steady advance
  exact ⟨steady, advance.routine⟩

theorem Enclosed.spares (enclosed : Enclosed system) (mine : system.held owner = some memory)
    (found : system.threadAt? memory.block = some thread)
    (stepped : thread.step answers system.machine = some (stage, after))
    (different : other ≠ owner) (theirs : system.held other = some further) :
    after.arenas further.block = system.machine.arenas further.block ∧
      ∀ address, further.region.base ≤ address →
        address < further.region.base + further.region.length →
          after.memory address = system.machine.memory address := by
  have equipped := enclosed.equipped mine found
  obtain ⟨inside, -, -⟩ := enclosed.advance found stepped
  rw [equipped.region] at inside
  exact inside.elsewhere equipped.placed (enclosed.sound.ownership.housed theirs).placed
    (enclosed.sound.ownership.apart different.symm mine theirs) equipped.furnished

theorem Enclosed.furnished_after (enclosed : Enclosed system)
    (mine : system.held owner = some memory)
    (found : system.threadAt? memory.block = some thread)
    (stepped : thread.step answers system.machine = some (stage, after))
    (theirs : system.held other = some further) : Furnished further.region after := by
  have equipped := enclosed.equipped mine found
  obtain ⟨steady, routine⟩ := enclosed.steady mine found stepped
  have routines (block : Nat) :
      (after.blocks block).routine = (system.machine.blocks block).routine := by
    by_cases here : block = memory.block
    · rw [here, routine]
    · rw [steady.blocks block here]
  by_cases own : other = owner
  · subst own
    cases mine.symm.trans theirs
    obtain ⟨inside, kept, -⟩ := enclosed.advance found stepped
    rw [equipped.region] at inside kept
    exact equipped.furnished.inside inside kept (routines memory.block)
  · obtain ⟨arena, bytes⟩ := enclosed.spares mine found stepped own theirs
    have before := enclosed.furnished theirs
    apply before.transport arena _ (routines _)
    intro i low
    obtain ⟨above, beneath⟩ := before.mapped (enclosed.sound.ownership.housed theirs).placed low
    exact bytes _ above beneath

theorem Enclosed.running_elsewhere {fellow : RuntimeThread} {block : Nat} {rest : Routine}
    (enclosed : Enclosed system) (mine : system.held owner = some memory)
    (found : system.threadAt? memory.block = some thread)
    (stepped : thread.step answers system.machine = some (stage, after))
    (different : block ≠ memory.block) (there : system.threadAt? block = some fellow)
    (running : fellow.stage = .running rest) :
    ∃ estate, rest.Tidy estate ∧ Serves fellow.region estate after := by
  obtain ⟨estate, tidy, serves⟩ := enclosed.running there running
  obtain ⟨its, further, theirs, rfl⟩ := enclosed.sound.owned there
  rw [(enclosed.equipped theirs there).region] at serves ⊢
  have apart : its ≠ owner := by
    rintro rfl
    cases mine.symm.trans theirs
    exact different rfl
  obtain ⟨arena, -⟩ := enclosed.spares mine found stepped apart theirs
  rw [ThreadMemory.block] at arena
  refine ⟨estate, tidy, serves.contexts, serves.allocators, ?_⟩
  rw [arena]
  exact serves.kept

theorem threadAt?_stepped {fellow : RuntimeThread}
    (found : system.threadAt? block = some thread)
    (there : ({ system with machine := after }.withStage block stage).threadAt? block =
      some fellow) :
    stage = some fellow.stage ∧ fellow.region = thread.region := by
  rw [System.threadAt?_withStage_same] at there
  obtain ⟨reached, staged, mapped⟩ := Option.bind_eq_some_iff.mp there
  obtain ⟨before, known, rfl⟩ := Option.map_eq_some_iff.mp mapped
  cases known.symm.trans found
  exact ⟨staged, rfl⟩

end

theorem Enclosed.steps (enclosed : Enclosed system) (block : Nat) (answers : HeapAnswers) :
    Enclosed (system.threadStep block answers) := by
  have sound : Sound (system.threadStep block answers) :=
    @step_sound system (.thread block answers) enclosed.sound trivial
  rcases System.threadStep_cases block answers system with
    ⟨same, -⟩ | ⟨thread, stage, after, found, stepped, same⟩
  · rw [same]
    exact enclosed
  · rw [same] at sound ⊢
    have leaves := enclosed.leaves found stepped
    obtain ⟨-, -, goes⟩ := enclosed.advance found stepped
    obtain ⟨owner, memory, mine, rfl⟩ := enclosed.sound.owned found
    obtain ⟨steady, -⟩ := enclosed.steady mine found stepped
    refine ⟨sound, ?_, ?_, ?_⟩
    · intro other further theirs
      rw [System.held_withStage] at theirs
      rw [System.machine_withStage]
      exact enclosed.furnished_after mine found stepped theirs
    · intro other further there entered
      rw [System.machine_withStage]
      by_cases here : other = memory.block
      · rw [here] at there ⊢
        rw [leaves, (threadAt?_stepped found there).2]
      · rw [System.threadAt?_withStage_other _ here] at there
        rw [steady.blocks other here]
        exact enclosed.current there entered
    · intro other further rest there running
      rw [System.machine_withStage]
      by_cases here : other = memory.block
      · rw [here] at there
        obtain ⟨staged, region⟩ := threadAt?_stepped found there
        rw [region]
        exact goes rest (staged.trans (congrArg some running))
      · rw [System.threadAt?_withStage_other _ here] at there
        exact enclosed.running_elsewhere mine found stepped here there running

theorem Enclosed.step (enclosed : Enclosed system) (lawful : move.Lawful system)
    (orderly : move.Orderly) : Enclosed (system.step move).1 := by
  cases move with
  | thread block answers => exact enclosed.steps block answers
  | _ => exact enclosed.control lawful orderly nofun

theorem Enclosed.fresh (fresh : system.Fresh) : Enclosed system := by
  have nobody (owner : Owner) : system.held owner = none := by
    cases owner <;> simp [System.held, fresh.handles, fresh.abandoned, Handle.empty]
  have none (block : Nat) : system.threadAt? block = none := by
    simp [System.threadAt?, fresh.threads]
  refine ⟨.fresh fresh, ?_, ?_, ?_⟩
  · intro owner memory mine
    cases (nobody owner).symm.trans mine
  · intro block thread found
    cases (none block).symm.trans found
  · intro block thread rest found
    cases (none block).symm.trans found

theorem Enclosed.run {moves : List Move} (enclosed : Enclosed system)
    (lawful : System.LawfulRun moves system) (orderly : ∀ move ∈ moves, move.Orderly) :
    Enclosed (system.run moves) := by
  induction moves generalizing system with
  | nil => exact enclosed
  | cons move rest ih =>
    rw [List.forall_mem_cons] at orderly
    exact ih (enclosed.step lawful.1 orderly.1) lawful.2 orderly.2

end

end ArenaThreads
