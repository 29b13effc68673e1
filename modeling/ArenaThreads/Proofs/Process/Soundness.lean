import ArenaThreads.Proofs.Handle.Lifecycle
import ArenaThreads.Proofs.Process.Advance
import ArenaThreads.Proofs.Process.Housing
/-!
What holds of a process at all times: the memory of threads is owned as it should be, every handle
is in one of its four states, and a control block whose join word is not zero is the block of a
thread that is still there.
-/

namespace ArenaThreads

namespace System

def held (system : System) : Holdings
  | .handle name => (system.handles name).memory
  | .abandoned index => system.abandoned[index]?

variable {system : System} {block place : Nat}

theorem held_withHandle (name : Nat) (handle : Handle) (machine : Machine) :
    (system.withHandle name handle machine).held = system.held.set (.handle name) handle.memory := by
  funext owner
  cases owner with
  | handle other =>
    by_cases same : other = name
    · simp [same, held, withHandle]
    · simp [same, held, withHandle, Cells.set_other]
  | abandoned index => rfl

theorem held_rehandled {name : Nat} {handle : Handle} (machine : Machine)
    (same : handle.memory = (system.handles name).memory) :
    (system.withHandle name handle machine).held = system.held := by
  rw [held_withHandle, same]
  exact Cells.set_self ..

theorem held_kept {name : Nat} {handle : Handle} {machine : Machine} {owner : Owner}
    {memory : ThreadMemory} (same : handle.memory = (system.handles name).memory)
    (mine : system.held owner = some memory) :
    (system.withHandle name handle machine).held owner = some memory := by
  rw [held_rehandled machine same]
  exact mine

theorem threadAt?_block {thread : RuntimeThread} (found : system.threadAt? block = some thread) :
    thread.block = block := by
  simpa using List.find?_some found

theorem threadAt?_launched (memory : ThreadMemory) (home : Nat)
    (absent : system.threadAt? memory.block = none) :
    { system with
      threads := system.threads ++ [RuntimeThread.launched memory.region home] }.threadAt?
        memory.block = some (RuntimeThread.launched memory.region home) := by
  have here : (RuntimeThread.launched memory.region home).block = memory.block := rfl
  unfold threadAt? at absent ⊢
  simp [List.find?_append, absent, here]

theorem threadAt?_launched_other (memory : ThreadMemory) (home : Nat)
    (different : place ≠ memory.block) :
    { system with
      threads := system.threads ++ [RuntimeThread.launched memory.region home] }.threadAt? place =
        system.threadAt? place := by
  have there : (RuntimeThread.launched memory.region home).block ≠ place := different.symm
  simp [threadAt?, List.find?_append, there]

theorem staged_block (thread : RuntimeThread) (stage : Stage) :
    (if thread.block = block then { thread with stage := stage } else thread).block =
      thread.block := by
  split <;> rfl

theorem threadAt?_withStage_same (stage : Option Stage) :
    (system.withStage block stage).threadAt? block =
      stage.bind fun stage => (system.threadAt? block).map fun thread =>
        { thread with stage := stage } := by
  cases stage with
  | none => simp [withStage, threadAt?]
  | some stage =>
    simp only [withStage, threadAt?, List.find?_map, Function.comp_def, staged_block,
      Option.bind_some]
    cases found : system.threads.find? fun thread => thread.block = block with
    | none => simp
    | some thread => simp [threadAt?_block found]

theorem threadAt?_withStage_other (stage : Option Stage) (different : place ≠ block) :
    (system.withStage block stage).threadAt? place = system.threadAt? place := by
  cases stage with
  | none =>
    simp only [withStage, threadAt?, List.find?_filter]
    refine congrArg (fun chosen => system.threads.find? chosen) (funext ?_)
    intro thread
    by_cases here : thread.block = place <;> simp [here, different]
  | some stage =>
    simp only [withStage, threadAt?, List.find?_map, Function.comp_def, staged_block]
    cases found : system.threads.find? fun thread => thread.block = place with
    | none => simp
    | some thread =>
      have here : thread.block = place := threadAt?_block found
      simp [here, different]

@[simp]
theorem machine_withStage (stage : Option Stage) :
    (system.withStage block stage).machine = system.machine := by
  cases stage <;> rfl

@[simp]
theorem handles_withStage (stage : Option Stage) :
    (system.withStage block stage).handles = system.handles := by
  cases stage <;> rfl

@[simp]
theorem joining_withStage (stage : Option Stage) :
    (system.withStage block stage).joining = system.joining := by
  cases stage <;> rfl

@[simp]
theorem joining_withJoining (name : Nat) (waits : Option Joining) :
    (system.withJoining name waits).joining name = waits := Cells.set_same _ _ _

theorem joining_elsewhere {name other : Nat} (waits : Option Joining) (different : other ≠ name) :
    (system.withJoining name waits).joining other = system.joining other :=
  Cells.set_other _ _ different

@[simp]
theorem held_withStage (stage : Option Stage) :
    (system.withStage block stage).held = system.held := by
  cases stage <;> rfl

theorem threadStep_cases (block : Nat) (answers : HeapAnswers) (system : System) :
    (system.threadStep block answers = system ∧ ∀ thread, system.threadAt? block = some thread →
      thread.step answers system.machine = none) ∨
    ∃ thread stage after, system.threadAt? block = some thread ∧
      thread.step answers system.machine = some (stage, after) ∧
      system.threadStep block answers = { system with machine := after }.withStage block stage := by
  unfold threadStep threadStep?
  cases system.threadAt? block with
  | none => exact Or.inl ⟨rfl, nofun⟩
  | some thread =>
    cases stepped : thread.step answers system.machine with
    | none =>
      refine Or.inl ⟨by rw [Option.bind_some, stepped]; rfl, ?_⟩
      intro other same
      cases same
      exact stepped
    | some reached =>
      refine Or.inr ⟨thread, reached.1, reached.2, rfl, stepped, ?_⟩
      rw [Option.bind_some, stepped]
      rfl

theorem wake_eq (block : Nat) (system : System) :
    ∃ wakes joining, system.wake block = { system with wakes := wakes, joining := joining } := by
  unfold wake
  split
  · exact ⟨_, _, rfl⟩
  · exact ⟨system.wakes, system.joining, rfl⟩

theorem joinStep_cases (name : Nat) (now : Instant) (refusal : Option OsError) (system : System) :
    ((∃ waits, system.joinStep name now refusal = (system.withJoining name waits, .waits)) ∧
      ∀ joining result, system.joining name = some joining → joining.asleep = false →
        joining.join.phase ≠ .finished result) ∨
    ∃ joining result, system.joining name = some joining ∧ joining.asleep = false ∧
      joining.join.phase = .finished result ∧
      system.joinStep name now refusal = system.finish name joining.purpose result := by
  have still {waits : Option Joining} (same : system.joining name = waits) :
      system = system.withJoining name waits := by
    rw [withJoining, ← same, Cells.set_self]
  unfold joinStep
  cases waiting : system.joining name with
  | none => exact Or.inl ⟨⟨none, Prod.ext (still waiting) rfl⟩, by simp⟩
  | some joining =>
    dsimp only
    cases asleep : joining.asleep with
    | true =>
      rw [if_pos rfl]
      refine Or.inl ⟨⟨some joining, Prod.ext (still waiting) rfl⟩, ?_⟩
      intro other result there awake
      cases there
      cases asleep.symm.trans awake
    | false =>
      rw [if_neg Bool.false_ne_true]
      have going (unfinished : ∀ result, joining.join.phase ≠ .finished result) :
          ∀ other result, some joining = some other → other.asleep = false →
            other.join.phase ≠ .finished result := by
        rintro other result there -
        cases there
        exact unfinished result
      split
      · exact Or.inl ⟨⟨_, rfl⟩, going (by simp [*])⟩
      · exact Or.inl ⟨⟨_, rfl⟩, going (by simp [*])⟩
      · exact Or.inl ⟨⟨_, rfl⟩, going (by simp [*])⟩
      · refine Or.inl ⟨?_, going (by simp [*])⟩
        split
        · exact ⟨_, rfl⟩
        · split <;> exact ⟨_, rfl⟩
      · rename_i result phase
        exact Or.inr ⟨joining, result, rfl, asleep, phase, rfl⟩

/-! Who is left alone -/

variable {name called : Nat}

theorem call_elsewhere (call : Call) (different : name ≠ called) :
    (system.call called call).1.joining name = system.joining name ∧
      (system.call called call).1.handles name = system.handles name := by
  have handles (handle : Handle) : system.handles.set called handle name = system.handles name :=
    Cells.set_other _ _ different
  have waits (joining : Option Joining) :
      system.joining.set called joining name = system.joining name := Cells.set_other _ _ different
  cases call with
  | create request caller answers => exact ⟨rfl, handles _⟩
  | start caller answers =>
    simp only [call, start]
    split <;> exact ⟨rfl, handles _⟩
  | stop timeout now =>
    simp only [call, stop]
    split
    · exact ⟨rfl, rfl⟩
    · exact ⟨rfl, rfl⟩
    · exact ⟨waits _, rfl⟩
  | destroy => exact ⟨rfl, handles _⟩
  | drop =>
    simp only [call, drop]
    split
    · exact ⟨waits _, rfl⟩
    · exact ⟨rfl, handles _⟩

theorem thread_joining (block : Nat) (answers : HeapAnswers) (system : System) :
    (system.threadStep block answers).joining = system.joining ∧
      (system.threadStep block answers).handles = system.handles := by
  rcases threadStep_cases block answers system with ⟨same, -⟩ | ⟨_, _, _, -, -, same⟩
  · rw [same]
    exact ⟨rfl, rfl⟩
  · rw [same, joining_withStage, handles_withStage]
    exact ⟨rfl, rfl⟩

theorem finish_joining (name : Nat) (purpose : JoinPurpose) (result : Except Error Unit)
    (system : System) :
    (system.finish name purpose result).1.joining = system.joining.set name none := by
  unfold finish
  split <;> rfl

theorem join_elsewhere (now : Instant) (refusal : Option OsError)
    (different : name ≠ called) :
    (system.joinStep called now refusal).1.joining name = system.joining name ∧
      (system.joinStep called now refusal).1.handles name = system.handles name := by
  rcases joinStep_cases called now refusal system with
    ⟨⟨waits, same⟩, -⟩ | ⟨joining, result, -, -, -, same⟩
  · rw [same]
    exact ⟨Cells.set_other _ _ different, rfl⟩
  · rw [same, finish_joining]
    refine ⟨Cells.set_other _ _ different, ?_⟩
    unfold finish
    split <;> exact Cells.set_other _ _ different

end System

/-- The thread that a control block tells of, and what it tells: without a thread the join word is
zero; a thread runs right below its block, which shows how far it is. -/
inductive Crewed (memory : ThreadMemory) (block : ControlBlock) : Option RuntimeThread → Prop
  | absent (word : block.joinWord = 0) : Crewed memory block none
  | present {thread : RuntimeThread} (region : thread.region = memory.region)
    (stack : thread.caller.stack = memory.block - 1) (word : block.joinWord ≠ 0)
    (shows : thread.stage.Shows block) : Crewed memory block (some thread)

/-- A call waits only for a live thread, and it is done only when that is gone. -/
structure Waits (name : Nat) (joining : Joining) (system : System) : Prop where
  live : (system.handles name).isLive = true
  done : joining.join.phase = .finished (.ok ()) → system.joinWord name = 0

structure Sound (system : System) : Prop where
  ownership : Ownership system.held system.machine
  handles : ∀ name, ∃ state, Represents system.machine (system.handles name) state
  crewed : ∀ {owner memory}, system.held owner = some memory →
    Crewed memory (system.machine.blocks memory.block) (system.threadAt? memory.block)
  owned : ∀ {block thread}, system.threadAt? block = some thread →
    ∃ owner memory, system.held owner = some memory ∧ memory.block = block
  waiting : ∀ {name joining}, system.joining name = some joining → Waits name joining system

section

variable {system next : System} {memory : ThreadMemory} {before after : ControlBlock}
  {thread : Option RuntimeThread} {name : Nat} {joining : Joining}

theorem Stage.shows_transport {stage : Stage} (shows : stage.Shows before)
    (state : after.state = before.state) : stage.Shows after := by
  cases stage <;> exact state.trans shows

theorem Crewed.transport (crewed : Crewed memory before thread)
    (same : after.detached = before.detached) : Crewed memory after thread := by
  obtain ⟨-, -, -, word, state⟩ := ControlBlock.detached_fields same
  cases crewed with
  | absent zero => exact .absent (word.trans zero)
  | present region stack real shows =>
    refine .present region stack ?_ (Stage.shows_transport shows state)
    rwa [word]

theorem Crewed.absent_iff (crewed : Crewed memory before thread) :
    thread = none ↔ before.joinWord = 0 := by
  cases crewed with
  | absent word => simp [word]
  | present _ _ word _ => simp [word]

theorem System.joinWord_eq (system : System) (has : (system.handles name).memory = some memory) :
    system.joinWord name = (system.machine.blocks memory.block).joinWord := by
  simp [System.joinWord, Handle.block?, has]

theorem System.joinWord_congr (handle : next.handles name = system.handles name)
    (word : ∀ memory, (system.handles name).memory = some memory →
      (next.machine.blocks memory.block).joinWord =
        (system.machine.blocks memory.block).joinWord) :
    next.joinWord name = system.joinWord name := by
  rw [joinWord, joinWord, Handle.block?, Handle.block?, handle]
  cases has : (system.handles name).memory with
  | none => rfl
  | some memory => exact word memory has

theorem Waits.transport (waits : Waits name joining system)
    (handle : next.handles name = system.handles name)
    (word : ∀ memory, (system.handles name).memory = some memory →
      (next.machine.blocks memory.block).joinWord =
        (system.machine.blocks memory.block).joinWord) : Waits name joining next := by
  constructor
  · rw [handle]
    exact waits.live
  · intro finished
    rw [System.joinWord_congr handle word]
    exact waits.done finished

theorem Sound.memory_of_live (sound : Sound system)
    (live : (system.handles name).isLive = true) :
    ∃ memory, (system.handles name).memory = some memory ∧
      (system.handles name).Live (system.machine.blocks memory.block) := by
  obtain ⟨state, represents⟩ := sound.handles name
  cases represents.isLive.mp live
  cases represents with
  | live has live => exact ⟨_, has, live⟩

end

/-! Changes that keep a process sound -/

namespace Sound

variable {system next : System} {owner : Owner} {memory : ThreadMemory} {name other : Nat}
  {handle : Handle} {state : Lifecycle} {after : Machine} {joining : Joining}

theorem free_of_idle (sound : Sound system) (idle : (system.handles name).isLive = false) :
    system.joining name = none := by
  cases waiting : system.joining name with
  | none => rfl
  | some joining => cases idle.symm.trans (sound.waiting waiting).live

theorem waits_elsewhere (free : system.joining name = none)
    (waiting : system.joining other = some joining) : other ≠ name := by
  rintro rfl
  cases free.symm.trans waiting

theorem fresh (fresh : system.Fresh) : Sound system := by
  have nobody (owner : Owner) : system.held owner = none := by
    cases owner with
    | handle name => simp [System.held, fresh.handles, Handle.empty]
    | abandoned index => simp [System.held, fresh.abandoned]
  have nothing : system.machine.registry.members system.machine.blocks = [] := by
    rw [fresh.registry]
    rfl
  refine ⟨⟨?_, ?_, ⟨?_, ?_, ?_⟩, ?_⟩, fun name => ⟨.empty, .empty (fresh.handles name)⟩, ?_, ?_, ?_⟩
  · intro owner memory mine
    cases (nobody owner).symm.trans mine
  · intro owner other memory further _ mine
    cases (nobody owner).symm.trans mine
  · rw [nothing, fresh.registry]
    rfl
  · rw [nothing, fresh.registry]
    rfl
  · rw [nothing]
    exact List.nodup_nil
  · intro block
    simp [nothing, nobody]
  · intro owner memory mine
    cases (nobody owner).symm.trans mine
  · intro block thread found
    simp [System.threadAt?, fresh.threads] at found
  · intro name joining waits
    cases (fresh.joining name).symm.trans waits

theorem keep (sound : Sound system) (keeps : Keeps system.held system.machine after) :
    Sound { system with machine := after } := by
  have block (owner : Owner) {memory : ThreadMemory} (mine : system.held owner = some memory) :
      (after.blocks memory.block).detached = (system.machine.blocks memory.block).detached :=
    (keeps.kept mine).block
  refine ⟨keeps.sound, ?_, ?_, sound.owned, ?_⟩
  · intro name
    obtain ⟨state, represents⟩ := sound.handles name
    exact ⟨state, represents.transport fun memory has => block (.handle name) has⟩
  · intro owner further mine
    exact (sound.crewed mine).transport (block _ mine)
  · intro name joining waits
    refine (sound.waiting waits).transport rfl ?_
    intro memory has
    exact (ControlBlock.detached_fields (block (.handle name) has)).2.2.2.1

theorem rehandle (sound : Sound system) (free : system.joining name = none)
    (same : handle.memory = (system.handles name).memory)
    (represents : Represents system.machine handle state) :
    Sound (system.withHandle name handle system.machine) := by
  have held := system.held_rehandled system.machine same
  constructor
  · rw [held]
    exact sound.ownership
  · intro other
    by_cases here : other = name
    · subst here
      exact ⟨state, by simpa [System.withHandle] using represents⟩
    · simpa [System.withHandle, Cells.set_other _ _ here] using sound.handles other
  · intro owner memory mine
    rw [held] at mine
    exact sound.crewed mine
  · intro block thread found
    rw [held]
    exact sound.owned found
  · intro other joining waits
    have different := waits_elsewhere free waits
    exact (sound.waiting waits).transport (Cells.set_other _ _ different) fun _ _ => rfl

/-- A handle without a running thread gets other memory, or none. -/
theorem rehouse (sound : Sound system) (free : system.joining name = none)
    (gone : ∀ {memory}, (system.handles name).memory = some memory →
      (system.machine.blocks memory.block).joinWord = 0)
    (moved : Rehouses (.handle name) system.held system.machine handle.memory after)
    (represents : Represents after handle state) (idle : handle.isLive = false) :
    Sound (system.withHandle name handle after) := by
  have absent {memory : ThreadMemory} (had : system.held (.handle name) = some memory) :
      system.threadAt? memory.block = none :=
    (sound.crewed had).absent_iff.mpr (gone had)
  constructor
  · rw [System.held_withHandle]
    exact moved.sound
  · intro other
    by_cases here : other = name
    · subst here
      exact ⟨state, by simpa [System.withHandle] using represents⟩
    · obtain ⟨kept, represents⟩ := sound.handles other
      refine ⟨kept, ?_⟩
      simp only [System.withHandle, Cells.set_other _ _ here]
      apply represents.transport
      intro memory has
      have theirs : system.held (.handle other) = some memory := has
      exact (moved.others (by simpa using here) theirs).block
  · intro other memory holds
    rw [System.held_withHandle] at holds
    change Crewed memory (after.blocks memory.block) (system.threadAt? memory.block)
    rcases held_set.mp holds with ⟨rfl, has⟩ | ⟨different, theirs⟩
    · cases found : system.threadAt? memory.block with
      | none => exact .absent (represents.word idle has)
      -- A thread there would run in memory of somebody, who is not disturbed and has other memory.
      | some thread =>
        obtain ⟨other, further, theirs, same⟩ := sound.owned found
        by_cases own : other = .handle name
        · subst own
          rw [← same, absent theirs] at found
          cases found
        · have kept : (system.held.set (.handle name) handle.memory) other = some further :=
            held_set.mpr (Or.inr ⟨own, theirs⟩)
          exact absurd same (moved.sound.blocks_differ own kept holds)
    · exact (sound.crewed theirs).transport (moved.others different theirs).block
  · intro block thread found
    obtain ⟨other, memory, theirs, rfl⟩ := sound.owned found
    refine ⟨other, memory, ?_, rfl⟩
    rw [System.held_withHandle]
    refine held_set.mpr (Or.inr ⟨?_, theirs⟩)
    rintro rfl
    cases (absent theirs).symm.trans found
  · intro other joining waits
    have different := waits_elsewhere free waits
    refine (sound.waiting waits).transport (Cells.set_other _ _ different) ?_
    intro memory has
    have theirs : system.held (.handle other) = some memory := has
    have kept := (moved.others (by simpa using different) theirs).block
    exact (ControlBlock.detached_fields kept).2.2.2.1

theorem held_abandon (machine : Machine) (has : (system.handles name).memory = some memory) :
    { system.withHandle name .empty machine with
      abandoned := system.abandoned ++ [memory] }.held =
      system.held ∘ Equiv.swap (.handle name) (.abandoned system.abandoned.length) := by
  funext owner
  cases owner with
  | handle other =>
    by_cases here : other = name
    · subst here
      simp [System.held, System.withHandle, Handle.empty]
    · have kept : Equiv.swap (Owner.handle name) (.abandoned system.abandoned.length)
          (.handle other) = .handle other :=
        Equiv.swap_apply_of_ne_of_ne (by simpa using here) (by simp)
      simp [System.held, System.withHandle, Cells.set_other _ _ here, kept]
  | abandoned index =>
    by_cases here : index = system.abandoned.length
    · subst here
      simp [System.held, has]
    · have kept : Equiv.swap (Owner.handle name) (.abandoned system.abandoned.length)
          (.abandoned index) = .abandoned index :=
        Equiv.swap_apply_of_ne_of_ne (by simp) (by simpa using here)
      simp only [System.held, Function.comp_apply, kept, List.getElem?_append]
      split
      · rfl
      · rw [List.getElem?_eq_none (by simp only [List.length_singleton]; omega),
          List.getElem?_eq_none (by omega)]

theorem abandon (sound : Sound system) (free : system.joining name = none)
    (has : (system.handles name).memory = some memory) :
    Sound { system.withHandle name .empty system.machine with
      abandoned := system.abandoned ++ [memory] } := by
  have held := held_abandon system.machine has
  constructor
  · rw [held]
    exact sound.ownership.relabel _
  · intro other
    by_cases here : other = name
    · subst here
      exact ⟨.empty, .empty (by simp [System.withHandle])⟩
    · simpa [System.withHandle, Cells.set_other _ _ here] using sound.handles other
  · intro owner further mine
    rw [held] at mine
    exact sound.crewed mine
  · intro block thread found
    obtain ⟨owner, further, mine, same⟩ := sound.owned found
    rw [held]
    exact ⟨Equiv.swap (.handle name) (.abandoned system.abandoned.length) owner, further,
      by simpa using mine, same⟩
  · intro other joining waits
    have different := waits_elsewhere free waits
    exact (sound.waiting waits).transport (Cells.set_other _ _ different) fun _ _ => rfl

/-- Waiting calls begin, go on or are gone, and pending wakes come and go. -/
theorem wait (sound : Sound system) (wakes : List Nat) (joining : Cells Nat (Option Joining))
    (waits : ∀ {name waiting}, joining name = some waiting → Waits name waiting system) :
    Sound { system with wakes := wakes, joining := joining } :=
  ⟨sound.ownership, sound.handles, sound.crewed, sound.owned, fun waiting =>
    ⟨(waits waiting).live, (waits waiting).done⟩⟩

theorem waits_at (sound : Sound system) {waits : Option Joining}
    (waiting : ∀ {joining}, waits = some joining → Waits name joining system)
    (there : (system.withJoining name waits).joining other = some joining) :
    Waits other joining system := by
  by_cases here : other = name
  · subst here
    exact waiting ((System.joining_withJoining _ _).symm.trans there)
  · exact sound.waiting ((System.joining_elsewhere _ here).symm.trans there)

theorem await (sound : Sound system) {waits : Option Joining}
    (waiting : ∀ {joining}, waits = some joining → Waits name joining system) :
    Sound (system.withJoining name waits) :=
  sound.wait system.wakes _ (sound.waits_at waiting)

/-- The thread of one control block begins, makes a step or ends. -/
theorem touch (sound : Sound system) (mine : system.held owner = some memory)
    (held : next.held = system.held)
    (steady : Steady memory.block system.machine next.machine)
    (crewed : Crewed memory (next.machine.blocks memory.block) (next.threadAt? memory.block))
    (crews : ∀ block, block ≠ memory.block → next.threadAt? block = system.threadAt? block)
    (own : ∀ name, owner = .handle name →
      ∃ state, Represents next.machine (next.handles name) state)
    (others : ∀ name, owner ≠ .handle name → next.handles name = system.handles name)
    (waiting : ∀ {name joining}, next.joining name = some joining → Waits name joining next) :
    Sound next := by
  have elsewhere {other : Owner} {further : ThreadMemory} (different : other ≠ owner)
      (theirs : system.held other = some further) :
      next.machine.blocks further.block = system.machine.blocks further.block :=
    steady.blocks _ (sound.ownership.blocks_differ different theirs mine)
  refine ⟨?_, ?_, ?_, ?_, waiting⟩
  · rw [held]
    exact steady.ownership sound.ownership
  · intro name
    by_cases here : owner = .handle name
    · exact own name here
    · obtain ⟨state, represents⟩ := sound.handles name
      rw [others name here]
      refine ⟨state, represents.transport ?_⟩
      intro further has
      have theirs : system.held (.handle name) = some further := has
      rw [elsewhere (Ne.symm here) theirs]
  · intro other further theirs
    rw [held] at theirs
    by_cases here : other = owner
    · subst here
      cases mine.symm.trans theirs
      exact crewed
    · rw [elsewhere here theirs, crews _ (sound.ownership.blocks_differ here theirs mine)]
      exact sound.crewed theirs
  · intro block thread found
    rw [held]
    by_cases here : block = memory.block
    · exact ⟨owner, memory, mine, here.symm⟩
    · rw [crews block here] at found
      exact sound.owned found

theorem restart (sound : Sound system) (free : system.joining name = none)
    (has : (system.handles name).memory = some memory)
    (represents : Represents after handle state) (same : handle.memory = some memory)
    (steady : Steady memory.block system.machine after) (threads : List RuntimeThread)
    (crewed : Crewed memory (after.blocks memory.block)
      ({ system with threads := threads }.threadAt? memory.block))
    (crews : ∀ block, block ≠ memory.block →
      { system with threads := threads }.threadAt? block = system.threadAt? block) :
    Sound { system.withHandle name handle after with threads := threads } := by
  have mine : system.held (.handle name) = some memory := has
  refine sound.touch mine (system.held_rehandled after (same.trans has.symm)) steady crewed crews
    ?_ ?_ ?_
  · intro other here
    cases here
    exact ⟨state, by simpa [System.withHandle] using represents⟩
  · intro other different
    have apart : other ≠ name := fun here => different (here ▸ rfl)
    simp [System.withHandle, Cells.set_other _ _ apart]
  · intro other joining waits
    have different := waits_elsewhere free waits
    refine (sound.waiting waits).transport (Cells.set_other _ _ different) ?_
    intro further has
    have theirs : system.held (.handle other) = some further := has
    have apart := sound.ownership.blocks_differ (by simpa using different) theirs mine
    exact congrArg ControlBlock.joinWord (steady.blocks _ apart)

end Sound

end ArenaThreads
