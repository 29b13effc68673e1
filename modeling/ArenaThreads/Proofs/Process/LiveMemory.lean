import ArenaThreads.Proofs.Process.Moves
/-!
The memory of a running thread stays what it is: from the start of a thread until the kernel has
cleared its join word, its region is mapped, its control block is registered, and only the thread
itself changes the block. Memory that a drop has left alone stays for good.
-/

namespace ArenaThreads

structure Spared (region : Region) (before after : Machine) : Prop where
  block : (after.blocks region.block).detached = (before.blocks region.block).detached
  mapped : region.mapping ∈ before.mappings → region.mapping ∈ after.mappings
  listed : region.block ∈ before.registry.members before.blocks →
    region.block ∈ after.registry.members after.blocks

theorem Undisturbed.spared {region : Region} {before after : Machine}
    (undisturbed : Undisturbed region before after) : Spared region before after :=
  ⟨undisturbed.block, undisturbed.mapped, undisturbed.listed⟩

/-- The kernel clears the join word of the thread at a control block, which has left its stack. -/
def Move.Clears (block : Nat) (system : System) (move : Move) : Prop :=
  (∃ answers, move = .thread block answers) ∧
    ∃ thread, system.threadAt? block = some thread ∧ thread.stage = .exiting

def System.Uncleared (block : Nat) : List Move → System → Prop
  | [], _ => True
  | move :: rest, system =>
    ¬move.Clears block system ∧ Uncleared block rest (system.step move).1

structure InUse (memory : ThreadMemory) (system : System) : Prop where
  placed : memory.region.Placed
  mapped : memory.region.mapping ∈ system.machine.mappings
  listed : memory.block ∈ system.machine.registry.members system.machine.blocks
  word : (system.machine.blocks memory.block).joinWord ≠ 0

def Running (memory : ThreadMemory) (system : System) : Prop :=
  ∃ owner thread, system.held owner = some memory ∧ system.threadAt? memory.block = some thread

section

variable {system next : System} {move : Move} {owner : Owner} {memory : ThreadMemory}
  {thread : RuntimeThread} {after : Machine}

theorem Sound.word (sound : Sound system) (mine : system.held owner = some memory)
    (found : system.threadAt? memory.block = some thread) :
    (system.machine.blocks memory.block).joinWord ≠ 0 := by
  have crewed := sound.crewed mine
  rw [found] at crewed
  cases crewed with
  | present region stack word shows => exact word

theorem Running.inUse (sound : Sound system) (running : Running memory system) :
    InUse memory system := by
  rcases running with ⟨owner, thread, mine, found⟩
  have house := sound.ownership.housed mine
  exact ⟨house.placed, house.mapped, sound.ownership.listed mine, sound.word mine found⟩

theorem Steady.spared {place : Nat} {held : Holdings} {before after : Machine}
    (steady : Steady place before after) (sound : Ownership held before)
    (different : memory.block ≠ place) : Spared memory.region before after := by
  constructor
  · rw [steady.blocks memory.region.block different]
  · rw [steady.mappings]
    exact id
  · rw [steady.members sound]
    exact id

theorem Steady.undisturbed {place : Nat} {held : Holdings} {before after : Machine}
    (steady : Steady place before after) (quiet : Quiet before after) (sound : Ownership held before)
    (different : memory.block ≠ place) : Undisturbed memory.region before after := by
  obtain ⟨block, mapped, listed⟩ := steady.spared sound different
  refine ⟨block, ?_, ?_, mapped, listed⟩
  · rw [quiet.arenas]
  · intro address _ _
    rw [quiet.bytes]

theorem Effect.disturbance (effect : Effect system move next) (sound : Sound system)
    (mine : system.held owner = some memory)
    (found : system.threadAt? memory.block = some thread) :
    Undisturbed memory.region system.machine next.machine ∨
      ∃ place answers, move = .thread place answers ∧
        Steady place system.machine next.machine := by
  have word := sound.word mine found
  have apart {name : Nat} (gone : ∀ {memory}, (system.handles name).memory = some memory →
      (system.machine.blocks memory.block).joinWord = 0) : owner ≠ .handle name := by
    rintro rfl
    exact word (gone mine)
  have elsewhere {further : ThreadMemory}
      (zero : (system.machine.blocks further.block).joinWord = 0) :
      memory.block ≠ further.block := fun same => by
    rw [same] at word
    exact word zero
  cases effect with
  | waited wakes joining waits silent => exact Or.inl (.refl ..)
  | kept keeps silent => exact Or.inl (keeps.kept mine)
  | rehoused gone moved represents idle replaces silent =>
    exact Or.inl (moved.others (apart gone) mine)
  | lost gone moved tight silent => exact Or.inl (moved.others (apart gone) mine)
  | refused has created steady block quiet silent =>
    exact Or.inl (steady.undisturbed quiet sound.ownership (elsewhere created.word))
  | launched has created real steady block quiet seen alone =>
    exact Or.inl (steady.undisturbed quiet sound.ownership (elsewhere created.word))
  | joined has live gone keeps seen alone => exact Or.inl (keeps.kept mine)
  | abandoned has keeps replaces silent => exact Or.inl (keeps.kept mine)
  | stepped holds reached steady advance asked =>
    exact Or.inr ⟨_, _, asked, by simpa using steady⟩

theorem Effect.undisturbed (effect : Effect system move next) (sound : Sound system)
    (running : Running memory system) (control : ∀ block answers, move ≠ .thread block answers) :
    Undisturbed memory.region system.machine next.machine := by
  rcases running with ⟨owner, thread, mine, found⟩
  rcases effect.disturbance sound mine found with undisturbed | ⟨place, answers, asked, -⟩
  · exact undisturbed
  · exact absurd asked (control place answers)

theorem Effect.spared (effect : Effect system move next) (sound : Sound system)
    (running : Running memory system) (other : ∀ answers, move ≠ .thread memory.block answers) :
    Spared memory.region system.machine next.machine := by
  rcases running with ⟨owner, thread, mine, found⟩
  rcases effect.disturbance sound mine found with undisturbed | ⟨place, answers, asked, steady⟩
  · exact undisturbed.spared
  · refine steady.spared sound.ownership fun same => other answers ?_
    rw [asked, same]

theorem abandoned_running {name : Nat} {further : ThreadMemory} (running : Running memory system)
    (had : (system.handles name).memory = some further) (after : Machine) :
    Running memory { (system.idle name).withHandle name .empty after with
      abandoned := system.abandoned ++ [further] } := by
  rcases running with ⟨owner, thread, mine, found⟩
  let swap := Equiv.swap (Owner.handle name) (.abandoned (system.idle name).abandoned.length)
  have idle : ((system.idle name).handles name).memory = some further := had
  refine ⟨swap owner, thread, (congrFun (Sound.held_abandon after idle) _).trans ?_, found⟩
  change system.held (swap (swap owner)) = some memory
  rw [Equiv.swap_apply_self]
  exact mine

theorem stepped_running {further : ThreadMemory} {stage : Option Stage}
    (running : Running memory system) (lasts : memory.block = further.block → stage ≠ none) :
    Running memory ({ system with machine := after }.withStage further.block stage) := by
  rcases running with ⟨owner, thread, mine, found⟩
  have held : ({ system with machine := after }.withStage further.block stage).held owner =
      some memory := by
    rw [System.held_withStage]
    exact mine
  by_cases same : memory.block = further.block
  · cases stage with
    | none => exact absurd rfl (lasts same)
    | some stage =>
      refine ⟨owner, { thread with stage := stage }, held, ?_⟩
      rw [same] at found
      rw [same, System.threadAt?_withStage_same]
      exact congrArg (Option.map _) found
  · refine ⟨owner, thread, held, ?_⟩
    rw [System.threadAt?_withStage_other _ same]
    exact found

/-- A thread runs on in its memory until the kernel clears its join word. -/
theorem Effect.running (effect : Effect system move next) (sound : Sound system)
    (running : Running memory system) (uncleared : ¬move.Clears memory.block system) :
    Running memory next := by
  have whole := running
  rcases running with ⟨owner, thread, mine, found⟩
  have word := sound.word mine found
  -- A handle that gets other memory has a cleared word, so the memory is not the one it had.
  have kept {name : Nat} (now : Option ThreadMemory)
      (gone : ∀ {memory}, (system.handles name).memory = some memory →
        (system.machine.blocks memory.block).joinWord = 0) :
      (system.held.set (.handle name) now) owner = some memory := by
    refine held_set.mpr (Or.inr ⟨?_, mine⟩)
    rintro rfl
    exact word (gone mine)
  cases effect with
  | waited wakes joining waits silent => exact ⟨owner, thread, mine, found⟩
  | kept keeps silent => exact ⟨owner, thread, mine, found⟩
  | rehoused gone moved represents idle replaces silent =>
    refine ⟨owner, thread, ?_, found⟩
    rw [System.held_withHandle]
    exact kept _ gone
  | lost gone moved tight silent =>
    refine ⟨owner, thread, ?_, found⟩
    rw [System.held_withHandle]
    exact kept _ gone
  | refused has created steady block quiet silent =>
    exact ⟨owner, thread, System.held_kept rfl mine, found⟩
  | @launched name id home further after has created real steady block quiet seen alone =>
    have different : memory.block ≠ further.block := fun same => by
      rw [same] at word
      exact word created.word
    have held : ((system.idle name).withHandle name
        { system.handles name with id := id, launched := true } after).held owner =
          some memory := System.held_kept rfl mine
    exact ⟨owner, thread, held,
      (System.threadAt?_launched_other further home different).trans found⟩
  | joined has live gone keeps seen alone =>
    exact ⟨owner, thread, System.held_kept rfl mine, found⟩
  | abandoned has keeps replaces silent => exact abandoned_running whole has _
  | @stepped other further mover stage after answers holds reached steady advance asked =>
    -- The last step of the thread itself would be the one that clears the word.
    apply stepped_running whole
    rintro same rfl
    rw [same] at found uncleared
    cases found.symm.trans reached
    exact uncleared ⟨⟨answers, asked⟩, thread, found, advance.ends⟩

theorem Effect.left (effect : Effect system move next) {index : Nat}
    (left : system.held (.abandoned index) = some memory) :
    next.held (.abandoned index) = some memory := by
  cases effect with
  | abandoned has keeps replaces silent =>
    have inside := (List.getElem?_eq_some_iff.mp left).1
    exact (List.getElem?_append_left inside).trans left
  | stepped mine found steady advance asked =>
    rw [System.held_withStage]
    exact left
  | _ => exact left

theorem start_running {name : Nat} {caller : Caller} {answers : LaunchAnswers}
    (sound : Sound system) (lawful : answers.Lawful)
    (started : (system.step (.call name (.start caller answers))).2 = .returned) :
    ∃ memory, (system.handles name).memory = some memory ∧
      Running memory (system.step (.call name (.start caller answers))).1 := by
  have seen : Move.sight? name system (.call name (.start caller answers)) = some .launched :=
    if_pos ⟨rfl, started⟩
  have fair : Move.Lawful system (.call name (.start caller answers)) := lawful
  have effect := step_effect sound fair
  generalize (system.step (.call name (.start caller answers))).1 = next at effect ⊢
  cases effect with
  | @launched other id home memory after has created real steady block quiet shown alone =>
    by_cases same : name = other
    · subst same
      have absent : (system.idle name).threadAt? memory.block = none := sound.absent has created.word
      have kept : ((system.idle name).withHandle name
          { system.handles name with id := id, launched := true } after).held (.handle name) =
            some memory := System.held_kept rfl has
      exact ⟨memory, has, .handle name, _, kept, System.threadAt?_launched memory home absent⟩
    · cases (alone name same).symm.trans seen
  | @joined other memory after has live gone keeps shown alone =>
    by_cases same : name = other
    · subst same
      cases shown.symm.trans seen
    · cases (alone name same).symm.trans seen
  | stepped mine found steady advance asked => cases asked
  | waited _ _ _ silent | kept _ silent | rehoused _ _ _ _ _ silent | lost _ _ _ silent
  | refused _ _ _ _ _ silent | abandoned _ _ _ silent => cases (silent name).symm.trans seen

theorem run_running {moves : List Move} (sound : Sound system) (running : Running memory system)
    (lawful : System.LawfulRun moves system)
    (uncleared : System.Uncleared memory.block moves system) :
    Running memory (system.run moves) := by
  induction moves generalizing system with
  | nil => exact running
  | cons move rest ih =>
    have effect := step_effect sound lawful.1
    exact ih (effect.sound sound) (effect.running sound running uncleared.1) lawful.2 uncleared.2

theorem run_left {moves : List Move} {index : Nat} (sound : Sound system)
    (left : system.held (.abandoned index) = some memory)
    (lawful : System.LawfulRun moves system) :
    (system.run moves).held (.abandoned index) = some memory := by
  induction moves generalizing system with
  | nil => exact left
  | cons move rest ih =>
    have effect := step_effect sound lawful.1
    exact ih (effect.sound sound) (effect.left left) lawful.2

theorem drop_left {name : Nat} {join : Join} {error : Error} {now : Instant}
    {refusal : Option OsError} (sound : Sound system)
    (waiting : system.joining name = some ⟨.drop, join, false⟩)
    (failed : join.phase = .finished (.error error)) :
    ∃ memory index, (system.handles name).memory = some memory ∧
      (system.step (.join name now refusal)).1.held (.abandoned index) = some memory := by
  obtain ⟨memory, has, -⟩ := sound.memory_of_live (sound.waiting waiting).live
  have ended : (system.step (.join name now refusal)).1 =
      (system.finish name .drop (.error error)).1 := by
    simp [System.step, System.joinStep, waiting, failed]
  refine ⟨memory, system.abandoned.length, has, ?_⟩
  rw [ended]
  simp [System.finish, Handle.abandoned, has, System.held, System.withHandle, System.withJoining]

end

/-- From a successful start until the kernel clears the join word, the thread's region stays mapped
and registered, nothing disturbs it but the steps of threads, and no other thread changes its
control block. After a drop whose wait has failed the region stays mapped and registered for
good. -/
theorem live_memory_kept {system : System} {before after : List Move} {move : Move}
    (fresh : system.Fresh) (lawful : System.LawfulRun (before ++ move :: after) system) :
    (∀ name caller answers, move = .call name (.start caller answers) →
      ((system.run before).step move).2 = .returned →
      ∃ memory, ((system.run before).handles name).memory = some memory ∧
        (System.Uncleared memory.block after ((system.run before).step move).1 →
          InUse memory (system.run (before ++ move :: after)) ∧
          ∀ later, later.Lawful (system.run (before ++ move :: after)) →
            ((∀ block answers, later ≠ .thread block answers) →
              Undisturbed memory.region (system.run (before ++ move :: after)).machine
                ((system.run (before ++ move :: after)).step later).1.machine) ∧
            ((∀ answers, later ≠ .thread memory.block answers) →
              Spared memory.region (system.run (before ++ move :: after)).machine
                ((system.run (before ++ move :: after)).step later).1.machine))) ∧
      ∀ name join error now refusal, move = .join name now refusal →
        (system.run before).joining name = some ⟨.drop, join, false⟩ →
        join.phase = .finished (.error error) →
        ∃ memory, ((system.run before).handles name).memory = some memory ∧
          memory.region.mapping ∈ (system.run (before ++ move :: after)).machine.mappings ∧
          memory.block ∈ (system.run (before ++ move :: after)).machine.registry.members
            (system.run (before ++ move :: after)).machine.blocks := by
  obtain ⟨earlier, now, later⟩ := System.lawful_append.mp lawful
  have reached : system.run (before ++ move :: after) =
      ((system.run before).step move).1.run after := by
    rw [System.run_append, System.run_cons]
  have sound := run_sound (.fresh fresh) earlier
  have onward := step_sound sound now
  have last := run_sound onward later
  rw [reached]
  constructor
  · rintro name caller answers rfl started
    obtain ⟨memory, has, running⟩ := start_running sound now started
    refine ⟨memory, has, ?_⟩
    intro uncleared
    have runs := run_running onward running later uncleared
    refine ⟨runs.inUse last, ?_⟩
    intro further allowed
    have effect := step_effect last allowed
    exact ⟨effect.undisturbed last runs, effect.spared last runs⟩
  · rintro name join error now refusal rfl waiting failed
    obtain ⟨memory, index, has, left⟩ := drop_left sound waiting failed
    have mine := run_left onward left later
    exact ⟨memory, has, (last.ownership.housed mine).mapped, last.ownership.listed mine⟩

theorem live_memory_kept_refused :
    System.Fresh {} ∧
      (∃ memory, ((System.run [.createAt 0 65536 7] {}).handles 0).memory = some memory ∧
        InUse memory (System.run [.createAt 0 65536 7, .startAs 0 12, .call 0 .drop] {})) ∧
      ∃ memory : ThreadMemory, memory.region.mapping ∈ (System.run
        [.createAt 0 65536 7, .startAs 0 12, .call 0 .drop, .join 0 ⟨0⟩ none,
          .join 0 ⟨0⟩ (some .outOfMemory), .join 0 ⟨0⟩ none] {}).machine.mappings := by
  have fresh : System.Fresh {} := ⟨fun _ => rfl, rfl, rfl, fun _ => rfl, rfl, rfl⟩
  have answers : (MemoryAnswers.upTo 65536 (2 ^ 30)).Lawful {} :=
    MemoryAnswers.upTo_lawful (by decide) (by decide) (by simp)
  have starts : LaunchAnswers.Lawful ⟨12, 12⟩ := ⟨by decide, by decide⟩
  have started := @live_memory_kept {} [.createAt 0 65536 7] [.call 0 .drop] (.startAs 0 12) fresh
    ⟨answers, starts, trivial, trivial⟩
  have dropped := @live_memory_kept {} [.createAt 0 65536 7, .startAs 0 12, .call 0 .drop,
    .join 0 ⟨0⟩ none, .join 0 ⟨0⟩ (some .outOfMemory)] [] (.join 0 ⟨0⟩ none) fresh
    ⟨answers, starts, trivial, trivial, trivial, trivial, trivial⟩
  refine ⟨fresh, ?_, ?_⟩
  · obtain ⟨memory, has, kept⟩ := started.1 0 ⟨0, 0⟩ ⟨12, 12⟩ rfl rfl
    refine ⟨memory, has, (kept ⟨?_, trivial⟩).1⟩
    rintro ⟨⟨answers, asked⟩, -⟩
    cases asked
  · obtain ⟨memory, -, mapped, -⟩ := dropped.2 0 ⟨none, .finished (.error (.wait .outOfMemory))⟩
      (.wait .outOfMemory) ⟨0⟩ none rfl rfl rfl
    exact ⟨memory, mapped⟩

end ArenaThreads
