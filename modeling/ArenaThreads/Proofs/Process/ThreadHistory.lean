import ArenaThreads.Proofs.Process.Moves
/-!
The history of one thread as its handle sees it: what one move can do to a handle, its control block
and its thread, and what the sights so far say about them. Sights come in one order, and states
never step back.
-/

namespace ArenaThreads

/-- What a move does to a handle that keeps its memory, to the control block and to the thread. -/
inductive Fate (handle : Handle) (block : ControlBlock) (thread : Option RuntimeThread) :
    Handle → ControlBlock → Option RuntimeThread → Option Sight → Prop
  | still {after : ControlBlock} (result : after.result = block.result)
    (state : after.state = block.state) : Fate handle block thread handle after thread none
  | launched {id : Nat} {started : RuntimeThread} {after : ControlBlock}
    (idle : handle.launched = false) (entering : started.stage = .entering)
    (result : after.result = block.result) (state : after.state = block.state) :
    Fate handle block thread { handle with id := id, launched := true } after (some started)
      (some .launched)
  | joined {after : ControlBlock} (gone : thread = none) (live : handle.isLive = true)
    (result : after.result = block.result) (state : after.state = block.state) :
    Fate handle block thread { handle with joined := true } after thread (some .joined)
  | stepped {current : RuntimeThread} {stage : Option Stage} {after : ControlBlock}
    (found : thread = some current) (advance : Advance block current.stage stage after) :
    Fate handle block thread handle after
      (stage.map fun stage => { current with stage := stage }) current.stage.sight?

def Stage.Unfinished : Stage → Prop
  | .entering | .announcing | .running _ => True
  | _ => False

def Stage.Carries (value : Nat) (block : ControlBlock) : Stage → Prop
  | .returning result => result = value
  | .stopping | .exiting => block.result = value
  | _ => False

/-- What the sights so far say about a handle, its control block and its thread. -/
inductive Told (handle : Handle) (block : ControlBlock) :
    Option RuntimeThread → List Sight → Prop
  | created (launched : handle.launched = false) (joined : handle.joined = false) :
    Told handle block none []
  | running {thread : RuntimeThread} (launched : handle.launched = true)
    (joined : handle.joined = false) (unfinished : thread.stage.Unfinished) :
    Told handle block (some thread) [.launched]
  | returned {thread : RuntimeThread} {value : Nat} (launched : handle.launched = true)
    (joined : handle.joined = false) (carries : thread.stage.Carries value block) :
    Told handle block (some thread) [.launched, .returned value]
  | cleared {value : Nat} (launched : handle.launched = true) (joined : handle.joined = false)
    (result : block.result = value) :
    Told handle block none [.launched, .returned value, .cleared]
  | joined {value : Nat} (launched : handle.launched = true) (joined : handle.joined = true)
    (result : block.result = value) :
    Told handle block none [.launched, .returned value, .cleared, .joined]

section

variable {handle after : Handle} {block next : ControlBlock} {thread later : Option RuntimeThread}
  {sights : List Sight} {sight : Option Sight}

theorem Stage.carries_transport {stage : Stage} {value : Nat} (carries : stage.Carries value block)
    (result : next.result = block.result) : stage.Carries value next := by
  cases stage with
  | returning => exact carries
  | stopping => exact result.trans carries
  | exiting => exact result.trans carries
  | _ => exact carries.elim

theorem Told.transport (told : Told handle block thread sights)
    (result : next.result = block.result) : Told handle next thread sights := by
  cases told with
  | created launched joined => exact .created launched joined
  | running launched joined unfinished => exact .running launched joined unfinished
  | returned launched joined carries =>
    exact .returned launched joined (Stage.carries_transport carries result)
  | cleared launched joined value => exact .cleared launched joined (result.trans value)
  | joined launched joined value => exact .joined launched joined (result.trans value)

theorem Told.advance {current : RuntimeThread} {stage : Option Stage}
    (told : Told handle block (some current) sights)
    (advance : Advance block current.stage stage next) :
    Told handle next (stage.map fun stage => { current with stage := stage })
      (sights ++ current.stage.sight?.toList) := by
  rcases current with ⟨region, caller, last⟩
  cases told with
  | running launched joined unfinished =>
    cases advance with
    | enter => exact .running launched joined trivial
    | announce => exact .running launched joined trivial
    | @run rest following context going =>
      have quiet : Stage.sight? (.running rest) = none := by
        cases rest with
        | done value => exact absurd rfl (going value)
        | _ => rfl
      rw [quiet]
      exact .running launched joined trivial
    | finish value => exact .returned launched joined rfl
    | write | stop | clear => exact unfinished.elim
  | returned launched joined carries =>
    cases advance with
    | enter | announce | run | finish => exact carries.elim
    | write value => exact .returned launched joined carries
    | stop => exact .returned launched joined carries
    | clear => exact .cleared launched joined carries

theorem Told.step (told : Told handle block thread sights)
    (fate : Fate handle block thread after next later sight) :
    Told after next later (sights ++ sight.toList) := by
  cases fate with
  | still result state =>
    rw [Option.toList_none, List.append_nil]
    exact told.transport result
  | launched idle entering result state =>
    cases told with
    | created launched joined =>
      refine .running rfl joined ?_
      rw [entering]
      trivial
    | running launched | returned launched | cleared launched | joined launched =>
      cases launched.symm.trans idle
  | joined gone live result state =>
    cases told with
    | cleared launched joined value => exact .joined launched rfl (result.trans value)
    | created launched joined => simp [Handle.isLive, launched] at live
    | joined launched joined => simp [Handle.isLive, joined] at live
    | running | returned => cases gone
  | stepped found advance =>
    subst found
    exact told.advance advance

theorem Fate.filling (fate : Fate handle block thread after next later sight) :
    after.function = handle.function ∧ after.argument = handle.argument := by
  cases fate <;> exact ⟨rfl, rfl⟩

theorem Told.order (told : Told handle block thread sights) :
    ∃ value, sights <+: [.launched, .returned value, .cleared, .joined] := by
  cases told with
  | created => exact ⟨0, List.nil_prefix⟩
  | running => exact ⟨0, [.returned 0, .cleared, .joined], rfl⟩
  | @returned _ value => exact ⟨value, [.cleared, .joined], rfl⟩
  | @cleared value => exact ⟨value, [.joined], rfl⟩
  | @joined value => exact ⟨value, [], rfl⟩

/-- A stop has waited for the thread only after everything else has been seen. -/
theorem Told.complete (told : Told handle block thread sights) (joined : .joined ∈ sights) :
    ∃ value, sights = [.launched, .returned value, .cleared, .joined] ∧ thread = none ∧
      handle.joined = true ∧ block.result = value := by
  cases told with
  | joined _ waited result => exact ⟨_, rfl, rfl, waited, result⟩
  | created | running | returned | cleared => simp at joined

theorem Told.unjoined (told : Told handle block thread sights) (unjoined : .joined ∉ sights) :
    handle.joined = false ∧ (.launched ∈ sights → handle.launched = true) := by
  cases told with
  | created launched joined => exact ⟨joined, nofun⟩
  | running launched joined => exact ⟨joined, fun _ => launched⟩
  | returned launched joined => exact ⟨joined, fun _ => launched⟩
  | cleared launched joined => exact ⟨joined, fun _ => launched⟩
  | joined => simp at unjoined

theorem Advance.rank {stage : Stage} {reached : Option Stage}
    (advance : Advance block stage reached next) (shows : stage.Shows block) :
    block.state.rank ≤ next.state.rank := by
  cases advance with
  | announce =>
    have ready : block.state = .ready := shows
    rw [ready]
    exact Nat.zero_le _
  | stop =>
    have running : block.state = .running := shows
    rw [running]
    exact Nat.le_succ 1
  | _ => exact Nat.le_refl _

theorem Fate.rank {memory : ThreadMemory} (crewed : Crewed memory block thread)
    (fate : Fate handle block thread after next later sight) :
    block.state.rank ≤ next.state.rank := by
  cases fate with
  | still result state => rw [state]
  | launched idle entering result state => rw [state]
  | joined gone live result state => rw [state]
  | stepped found advance =>
    subst found
    cases crewed with
    | present region stack word shows => exact advance.rank shows

end

/-! From moves to histories -/

def System.sights (name : Nat) : List Move → System → List Sight
  | [], _ => []
  | move :: rest, system => (move.sight? name system).toList ++ sights name rest (system.step move).1

def System.Keeping (name : Nat) : List Move → System → Prop
  | [], _ => True
  | move :: rest, system => ¬move.Replaces name system ∧ Keeping name rest (system.step move).1

section

variable {system next : System} {move : Move} {name : Nat} {memory : ThreadMemory}

theorem Effect.page (effect : Effect system move next) :
    next.machine.page = system.machine.page := by
  cases effect with
  | waited wakes joining waits silent => rfl
  | kept keeps silent => exact keeps.page
  | rehoused gone moved represents idle replaces silent => exact moved.page
  | lost gone moved tight silent => exact moved.page
  | refused has created steady block quiet silent => exact steady.page
  | launched has created real steady block quiet seen alone => exact steady.page
  | joined has live gone keeps seen alone => exact keeps.page
  | abandoned has keeps replaces silent => exact keeps.page
  | stepped mine found steady advance asked =>
    rw [System.machine_withStage]
    exact steady.page

theorem run_paged {moves : List Move} (sound : Sound system)
    (paged : Pages.Real system.machine.page) (lawful : System.LawfulRun moves system) :
    Pages.Real (system.run moves).machine.page := by
  induction moves generalizing system with
  | nil => exact paged
  | cons move rest ih =>
    have effect := step_effect sound lawful.1
    exact ih (effect.sound sound) (by rw [effect.page]; exact paged) lawful.2

structure Undergoes (name : Nat) (memory : ThreadMemory) (system next : System)
    (sight : Option Sight) : Prop where
  has : (next.handles name).memory = some memory
  fate : Fate (system.handles name) (system.machine.blocks memory.block)
    (system.threadAt? memory.block) (next.handles name) (next.machine.blocks memory.block)
    (next.threadAt? memory.block) sight

theorem Undergoes.still (has : (system.handles name).memory = some memory)
    (handle : next.handles name = system.handles name)
    (block : (next.machine.blocks memory.block).detached =
      (system.machine.blocks memory.block).detached)
    (thread : next.threadAt? memory.block = system.threadAt? memory.block) :
    Undergoes name memory system next none := by
  obtain ⟨-, -, result, -, state⟩ := ControlBlock.detached_fields block
  refine ⟨by rw [handle]; exact has, ?_⟩
  rw [handle, thread]
  exact .still result state

theorem Undergoes.changed {handle : Handle} {sight : Option Sight}
    (now : next.handles name = handle) (has : handle.memory = some memory)
    (fate : Fate (system.handles name) (system.machine.blocks memory.block)
      (system.threadAt? memory.block) handle (next.machine.blocks memory.block)
      (next.threadAt? memory.block) sight) : Undergoes name memory system next sight := by
  refine ⟨by rw [now]; exact has, ?_⟩
  rw [now]
  exact fate

theorem stepped_undergoes {further : ThreadMemory} {current : RuntimeThread}
    {stage : Option Stage} {after : Machine} {answers : HeapAnswers}
    (has : (system.handles name).memory = some memory)
    (found : system.threadAt? further.block = some current)
    (steady : Steady further.block system.machine after)
    (advance : Advance (system.machine.blocks further.block) current.stage stage
      (after.blocks further.block)) :
    Undergoes name memory system ({ system with machine := after }.withStage further.block stage)
      (Move.sight? name system (.thread further.block answers)) := by
  have block : (system.handles name).memory.map ThreadMemory.block = some memory.block := by
    rw [has]
    rfl
  have handles : ({ system with machine := after }.withStage further.block stage).handles =
      system.handles := System.handles_withStage stage
  by_cases same : memory.block = further.block
  · have seen : Move.sight? name system (.thread further.block answers) =
        current.stage.sight? := by
      rw [Move.sight?, if_pos (by rw [block, same]), found, Option.bind_some]
    have here : { system with machine := after }.threadAt? further.block = some current := found
    rw [seen]
    apply Undergoes.changed (congrFun handles name) has
    rw [same, System.threadAt?_withStage_same, System.machine_withStage, here]
    have step : Fate (system.handles name) _ _ _ _ _ _ := .stepped found advance
    cases stage <;> exact step
  · have silent : Move.sight? name system (.thread further.block answers) = none := by
      rw [Move.sight?, if_neg (by simpa [block] using same)]
    rw [silent]
    refine .still has (congrFun handles name) ?_ (System.threadAt?_withStage_other stage same)
    rw [System.machine_withStage]
    exact congrArg _ (steady.blocks _ same)

theorem Sound.blocks_apart (sound : Sound system) {other : Nat} {further : ThreadMemory}
    (has : (system.handles name).memory = some memory)
    (theirs : (system.handles other).memory = some further) (different : name ≠ other) :
    memory.block ≠ further.block := by
  have mine : system.held (.handle name) = some memory := has
  have holds : system.held (.handle other) = some further := theirs
  exact sound.ownership.blocks_differ (by simpa using different) mine holds

theorem launched_undergoes {other id home : Nat} {further : ThreadMemory} {after : Machine}
    {arguments : CloneArguments} (sound : Sound system)
    (has : (system.handles name).memory = some memory)
    (theirs : (system.handles other).memory = some further)
    (created : (system.handles other).Created (system.machine.blocks further.block))
    (steady : Steady further.block system.machine after)
    (block : after.blocks further.block =
      { system.machine.blocks further.block with joinWord := id, arguments := arguments }) :
    Undergoes name memory system
      { (system.idle other).withHandle other
          { system.handles other with id := id, launched := true } after with
        threads := system.threads ++ [.launched further.region home] }
      (if name = other then some .launched else none) := by
  by_cases same : name = other
  · subst same
    cases has.symm.trans theirs
    have absent : (system.idle name).threadAt? memory.block = none := sound.absent has created.word
    have started := System.threadAt?_launched memory home absent
    rw [if_pos rfl]
    refine .changed (Cells.set_same ..) has ?_
    refine started ▸ .launched created.launched rfl ?_ ?_
    · exact (congrArg ControlBlock.result block).trans rfl
    · exact (congrArg ControlBlock.state block).trans rfl
  · have apart := sound.blocks_apart has theirs same
    rw [if_neg same]
    refine .still has (Cells.set_other _ _ same) ?_
      (System.threadAt?_launched_other further home apart)
    exact congrArg _ (steady.blocks _ apart)

theorem refused_undergoes {other : Nat} {further : ThreadMemory} {after : Machine}
    {arguments : CloneArguments} (sound : Sound system)
    (has : (system.handles name).memory = some memory)
    (theirs : (system.handles other).memory = some further)
    (steady : Steady further.block system.machine after)
    (block : after.blocks further.block =
      { system.machine.blocks further.block with joinWord := 0, arguments := arguments }) :
    Undergoes name memory system
      ((system.idle other).withHandle other (system.handles other) after) none := by
  by_cases same : name = other
  · subst same
    cases has.symm.trans theirs
    refine .changed (Cells.set_same ..) has (.still ?_ ?_)
    · exact (congrArg ControlBlock.result block).trans rfl
    · exact (congrArg ControlBlock.state block).trans rfl
  · refine .still has (Cells.set_other _ _ same) ?_ rfl
    exact congrArg _ (steady.blocks _ (sound.blocks_apart has theirs same))

theorem joined_undergoes {other : Nat} {further : ThreadMemory} {after : Machine}
    (sound : Sound system) (has : (system.handles name).memory = some memory)
    (theirs : (system.handles other).memory = some further)
    (live : (system.handles other).Live (system.machine.blocks further.block))
    (gone : (system.machine.blocks further.block).joinWord = 0)
    (keeps : Keeps system.held system.machine after) :
    Undergoes name memory system
      ((system.idle other).withHandle other { system.handles other with joined := true } after)
      (if name = other then some .joined else none) := by
  have mine : system.held (.handle name) = some memory := has
  by_cases same : name = other
  · subst same
    cases has.symm.trans theirs
    obtain ⟨-, -, result, -, state⟩ := ControlBlock.detached_fields (keeps.kept mine).block
    have lives : (system.handles name).isLive = true := by
      simp [Handle.isLive, live.launched, live.joined]
    rw [if_pos rfl]
    exact .changed (Cells.set_same ..) has (.joined (sound.absent has gone) lives result state)
  · rw [if_neg same]
    exact .still has (Cells.set_other _ _ same) (keeps.kept mine).block rfl

theorem sight_of_alone {other : Nat} {sight : Sight} (seen : move.sight? other system = some sight)
    (alone : ∀ further, further ≠ other → move.sight? further system = none) :
    move.sight? name system = if name = other then some sight else none := by
  by_cases same : name = other
  · rw [if_pos same, same, seen]
  · rw [if_neg same, alone name same]

theorem Effect.undergoes (effect : Effect system move next) (sound : Sound system)
    (paged : Pages.Real system.machine.page) (has : (system.handles name).memory = some memory)
    (keeping : ¬move.Replaces name system) :
    Undergoes name memory system next (move.sight? name system) := by
  have mine : system.held (.handle name) = some memory := has
  cases effect with
  | waited wakes joining waits silent =>
    rw [silent name]
    exact .still has rfl rfl rfl
  | kept keeps silent =>
    rw [silent name]
    exact .still has rfl (keeps.kept mine).block rfl
  | @rehoused other handle state after gone moved represents idle replaces silent =>
    have different : name ≠ other := fun same => keeping (same ▸ replaces)
    rw [silent name]
    exact .still has (Cells.set_other _ _ different)
      (moved.others (by simpa using different) mine).block rfl
  | lost gone moved tight silent =>
    -- A page is more than the context copy needs, so there is no such region.
    rcases tight with ⟨size, some, tight⟩
    exact absurd tight (Nat.not_lt.mpr (paged.roomy some))
  | @abandoned other further after theirs keeps replaces silent =>
    have different : name ≠ other := fun same => keeping (same ▸ replaces)
    rw [silent name]
    exact .still has (Cells.set_other _ _ different) (keeps.kept mine).block rfl
  | refused theirs created steady block quiet silent =>
    rcases block with ⟨arguments, block⟩
    rw [silent name]
    exact refused_undergoes sound has theirs steady block
  | launched theirs created real steady block quiet seen alone =>
    rcases block with ⟨arguments, block⟩
    rw [sight_of_alone seen alone]
    exact launched_undergoes sound has theirs created steady block
  | joined theirs live gone keeps seen alone =>
    rw [sight_of_alone seen alone]
    exact joined_undergoes sound has theirs live gone keeps
  | stepped holds found steady advance asked =>
    rw [asked]
    exact stepped_undergoes has found steady advance

end

end ArenaThreads
