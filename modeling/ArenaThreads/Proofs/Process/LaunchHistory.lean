import ArenaThreads.Proofs.Process.LifecycleLog
/-!
Launching threads with two calls of the kernel: the newer one until the kernel turns out not to know
it, and the older one from then on. A launch that fails leaves the handle ready for the next.
-/

namespace ArenaThreads

namespace ThreadMemory

def joinWord (memory : ThreadMemory) : Nat := memory.block + ControlBlock.joinWordOffset

def newerCall (memory : ThreadMemory) (machine : Machine) : LaunchCall :=
  .clone3 (Launch.arguments memory.joinWord (machine.blocks memory.block))

def olderCall (memory : ThreadMemory) : LaunchCall :=
  .clone Launch.flags memory.block memory.joinWord memory.joinWord

def launchedBlock (id : Nat) (memory : ThreadMemory) (machine : Machine) : ControlBlock :=
  { machine.blocks memory.block with
    joinWord := id
    arguments := Launch.arguments memory.joinWord (machine.blocks memory.block) }

end ThreadMemory

def System.launch (answers : LaunchAnswers) (memory : ThreadMemory) (system : System) : Launch :=
  (Handle.launch answers memory system.machine).1

structure Move.Launches (name : Nat) (answers : LaunchAnswers) (memory : ThreadMemory)
    (system : System) (move : Move) : Prop where
  asked : ∃ caller, move = .call name (.start caller answers)
  free : system.joining name = none
  has : (system.handles name).memory = some memory
  created : (system.handles name).lifecycle = .created

/-- A launch to which the kernel answers that it does not know the newer call. -/
def Move.FindsMissing (system : System) (move : Move) : Prop :=
  ∃ name answers memory, move.Launches name answers memory system ∧
    memory.newerCall system.machine ∈ (system.launch answers memory).calls ∧
    answers.clone3 = Launch.notImplemented

def System.FoundMissing (moves : List Move) (system : System) : Prop :=
  ∃ earlier move later, moves = earlier ++ move :: later ∧ move.FindsMissing (system.run earlier)

def Move.Fails (name : Nat) (system : System) (move : Move) : Prop :=
  move.subject? = some name →
    (∃ caller answers, move = .call name (.start caller answers)) ∧
      (system.step move).2 ≠ .returned

def System.OnlyFails (name : Nat) : List Move → System → Prop
  | [], _ => True
  | move :: rest, system => move.Fails name system ∧ OnlyFails name rest (system.step move).1

/-- What a launch that fails leaves: but for the arguments in the control block, the log and what is
known of the newer call, everything is as it was, and the handle is ready to be started. -/
structure LaunchFails (name : Nat) (memory : ThreadMemory) (cause : OsError) (before : System)
    (outcome : System × CallResult) : Prop where
  result : outcome.2 = .failed (.error (.spawn cause))
  rest : outcome.1 = { before with machine := outcome.1.machine }
  machine : outcome.1.machine = { before.machine with
    blocks := before.machine.blocks.set memory.block (memory.launchedBlock 0 before.machine)
    cloneMissing := outcome.1.machine.cloneMissing
    log := outcome.1.machine.log }
  created : Represents outcome.1.machine (outcome.1.handles name) .created

structure LaunchSucceeds (name : Nat) (memory : ThreadMemory) (id : Nat) (before : System)
    (outcome : System × CallResult) : Prop where
  result : outcome.2 = .returned
  handles : outcome.1.handles =
    before.handles.set name { before.handles name with id := id, launched := true }
  threads : ∃ home, outcome.1.threads = before.threads ++ [.launched memory.region home]
  blocks : outcome.1.machine.blocks =
    before.machine.blocks.set memory.block (memory.launchedBlock id before.machine)

/-- Which calls a launch makes, what they ask for and what comes of their answers. -/
structure LaunchObeys (found : Prop) (name : Nat) (answers : LaunchAnswers) (memory : ThreadMemory)
    (system : System) (move : Move) : Prop where
  known : found → (system.launch answers memory).calls = [memory.olderCall] ∧
    (system.launch answers memory).answer = answers.clone
  missing : ¬found → answers.clone3 = Launch.notImplemented →
    (system.launch answers memory).calls =
        [memory.newerCall system.machine, memory.olderCall] ∧
      (system.launch answers memory).answer = answers.clone
  newer : ¬found → answers.clone3 ≠ Launch.notImplemented →
    (system.launch answers memory).calls = [memory.newerCall system.machine] ∧
      (system.launch answers memory).answer = answers.clone3
  meaning : ∀ call ∈ (system.launch answers memory).calls,
    call.meaning = ⟨Launch.flags, memory.block, memory.joinWord, memory.joinWord⟩
  fails : (system.launch answers memory).answer < 0 →
    LaunchFails name memory ⟨-(system.launch answers memory).answer⟩ system (system.step move)
  succeeds : 0 < (system.launch answers memory).answer →
    LaunchSucceeds name memory (system.launch answers memory).answer.toNat system (system.step move)

structure Unaware (before after : Machine) : Prop where
  missing : after.cloneMissing = before.cloneMissing
  count : after.log.count .cloneFallback = before.log.count .cloneFallback

def ControlBlock.unlaunched (block : ControlBlock) : ControlBlock :=
  { block with joinWord := 0, arguments := {}, next := 0 }

structure StillReady (name : Nat) (memory : ThreadMemory) (before after : System) : Prop where
  handle : after.handles name = before.handles name
  block : (after.machine.blocks memory.block).unlaunched =
    (before.machine.blocks memory.block).unlaunched

structure LaunchedAlike (name : Nat) (memory : ThreadMemory) (first second : System) : Prop where
  handle : second.handles name = first.handles name
  block : second.machine.blocks memory.block =
    { first.machine.blocks memory.block with
      next := (second.machine.blocks memory.block).next }

/-- What the launches after a run obey: whether the newer call is made depends on what the launches
of the run have found out, and starts of the same handle that have failed leave no trace. -/
structure LaunchHistory (moves : List Move) (start : System) : Prop where
  launches : ∀ {name answers memory move}, move.Launches name answers memory (start.run moves) →
    LaunchObeys (start.FoundMissing moves) name answers memory (start.run moves) move
  silent : ¬start.FoundMissing moves →
    (start.run moves).machine.log.count .cloneFallback = start.machine.log.count .cloneFallback
  told : start.FoundMissing moves →
    (start.run moves).machine.log.count .cloneFallback =
      start.machine.log.count .cloneFallback + 1
  retries : ∀ {name answers again memory place move further earlier between},
    moves = earlier ++ between → move.Launches name answers memory (start.run earlier) →
    (start.run earlier).OnlyFails name between →
    further.Launches name again place (start.run moves) →
    0 < ((start.run earlier).launch answers memory).answer →
    ((start.run moves).launch again place).answer =
      ((start.run earlier).launch answers memory).answer →
    place = memory ∧ LaunchedAlike name memory ((start.run earlier).step move).1
      ((start.run moves).step further).1

section

variable {system next : System} {move : Move} {name : Nat} {memory : ThreadMemory}
  {answers : LaunchAnswers} {machine before between after : Machine} {events : List Event}

/-! One launch -/

theorem launch_known (known : system.machine.cloneMissing = true) :
    system.launch answers memory = ⟨answers.clone, [memory.olderCall], true, false⟩ := by
  simp only [System.launch, Handle.launch, Launch.run, known]
  rfl

theorem launch_missing (unknown : system.machine.cloneMissing = false)
    (missing : answers.clone3 = Launch.notImplemented) :
    system.launch answers memory =
      ⟨answers.clone, [memory.newerCall system.machine, memory.olderCall], true, true⟩ := by
  simp only [System.launch, Handle.launch, Launch.run, unknown, missing]
  rfl

theorem launch_newer (unknown : system.machine.cloneMissing = false)
    (there : answers.clone3 ≠ Launch.notImplemented) :
    system.launch answers memory =
      ⟨answers.clone3, [memory.newerCall system.machine], false, false⟩ := by
  simp only [System.launch, Handle.launch, Launch.run, unknown, there]
  rfl

theorem launch_machine (answers : LaunchAnswers) (memory : ThreadMemory) (machine : Machine) :
    (Handle.launch answers memory machine).2 = { machine with
      blocks := machine.blocks.set memory.block (memory.launchedBlock
        (Handle.launch answers memory machine).1.answer.toNat machine)
      cloneMissing := (Handle.launch answers memory machine).2.cloneMissing
      log := (Handle.launch answers memory machine).2.log } := by
  unfold Handle.launch
  dsimp only
  split <;> rfl

/-- Both calls ask for the same: the new thread runs right below its control block, and the kernel
sets and clears the join word. -/
theorem launch_meaning (described : (system.machine.blocks memory.block).Describes memory.region)
    (placed : memory.region.Placed) :
    ∀ call ∈ (system.launch answers memory).calls,
      call.meaning = ⟨Launch.flags, memory.block, memory.joinWord, memory.joinWord⟩ := by
  have inside := (Region.block_inside placed).1
  have pointer : (system.machine.blocks memory.block).stackLow +
      (system.machine.blocks memory.block).stackSize = memory.block := by
    rw [described.low, described.size]
    exact Nat.add_sub_of_le (Nat.le_of_lt inside)
  have older : memory.olderCall.meaning =
      ⟨Launch.flags, memory.block, memory.joinWord, memory.joinWord⟩ := rfl
  have newer : (memory.newerCall system.machine).meaning =
      ⟨Launch.flags, memory.block, memory.joinWord, memory.joinWord⟩ := by
    simp only [ThreadMemory.newerCall, LaunchCall.meaning, Launch.arguments, pointer]
  cases known : system.machine.cloneMissing with
  | true =>
    rw [launch_known known]
    simp [older]
  | false =>
    by_cases missing : answers.clone3 = Launch.notImplemented
    · rw [launch_missing known missing]
      simp [older, newer]
    · rw [launch_newer known missing]
      simp [newer]

theorem start_failed {caller : Caller} (has : (system.handles name).memory = some memory)
    (created : (system.handles name).Created (system.machine.blocks memory.block))
    (failed : (system.launch answers memory).answer < 0) :
    system.start name caller answers =
      (system.withHandle name (system.handles name)
          ((Handle.launch answers memory system.machine).2.emit
            (.threadFailed "start" (OsError.message ⟨-(system.launch answers memory).answer⟩))),
        .failed (.error (.spawn ⟨-(system.launch answers memory).answer⟩))) := by
  rw [System.start, (start_created has created).trans (if_pos failed)]
  rfl

theorem start_launched {caller : Caller} (has : (system.handles name).memory = some memory)
    (created : (system.handles name).Created (system.machine.blocks memory.block))
    (going : ¬(system.launch answers memory).answer < 0) :
    system.start name caller answers =
      ({ system.withHandle name
            { system.handles name with
              id := (system.launch answers memory).answer.toNat, launched := true }
            ((Handle.launch answers memory system.machine).2.emit
              (.threadStarted (system.launch answers memory).answer.toNat)) with
          threads := system.threads ++ [.launched memory.region caller.home] }, .returned) := by
  rw [System.start, (start_created has created).trans (if_neg going)]
  simp only [has]
  rfl

theorem LaunchFails.of_start {caller : Caller} (asked : move = .call name (.start caller answers))
    (free : system.joining name = none) (has : (system.handles name).memory = some memory)
    (created : (system.handles name).Created (system.machine.blocks memory.block))
    (failed : (system.launch answers memory).answer < 0) :
    LaunchFails name memory ⟨-(system.launch answers memory).answer⟩ system (system.step move) := by
  have changed := launch_machine answers memory system.machine
  have zero : (Handle.launch answers memory system.machine).1.answer.toNat = 0 :=
    Int.toNat_of_nonpos (Int.le_of_lt failed)
  rw [zero] at changed
  rw [asked, System.step_call free, System.call, start_failed has created failed]
  generalize (Handle.launch answers memory system.machine).2 = after at changed
  have blocks : after.blocks =
      system.machine.blocks.set memory.block (memory.launchedBlock 0 system.machine) :=
    congrArg Machine.blocks changed
  have block : after.blocks memory.block = memory.launchedBlock 0 system.machine := by
    rw [blocks, Cells.set_same]
  constructor
  · rfl
  · exact System.withHandle_same _
  · simp only [System.withHandle, Machine.emit]
    conv => lhs; rw [changed]
  · rw [System.withHandle_same]
    refine .created has ?_
    change (system.handles name).Created (after.blocks memory.block)
    rw [block]
    exact ⟨⟨created.function, created.argument⟩, created.launched, created.joined, created.id,
      created.state, rfl, created.result⟩

theorem LaunchSucceeds.of_start {caller : Caller}
    (asked : move = .call name (.start caller answers)) (free : system.joining name = none)
    (has : (system.handles name).memory = some memory)
    (created : (system.handles name).Created (system.machine.blocks memory.block))
    (launched : 0 < (system.launch answers memory).answer) :
    LaunchSucceeds name memory (system.launch answers memory).answer.toNat system
      (system.step move) := by
  have changed := launch_machine answers memory system.machine
  have going : ¬(system.launch answers memory).answer < 0 := Int.not_lt.mpr (Int.le_of_lt launched)
  rw [asked, System.step_call free, System.call, start_launched has created going]
  constructor
  · rfl
  · rfl
  · exact ⟨caller.home, rfl⟩
  · exact congrArg Machine.blocks changed

theorem Sound.created (sound : Sound system) (has : (system.handles name).memory = some memory)
    (lifecycle : (system.handles name).lifecycle = .created) :
    (system.handles name).Created (system.machine.blocks memory.block) := by
  obtain ⟨state, represents⟩ := sound.handles name
  have same := represents.lifecycle.symm.trans lifecycle
  subst same
  cases represents with
  | created holds created =>
    cases holds.symm.trans has
    exact created

theorem Move.Launches.obeys (launches : move.Launches name answers memory system)
    (sound : Sound system) :
    LaunchObeys (system.machine.cloneMissing = true) name answers memory system move := by
  obtain ⟨⟨caller, asked⟩, free, has, lifecycle⟩ := launches
  have created := sound.created has lifecycle
  have mine : system.held (.handle name) = some memory := has
  have house := sound.ownership.housed mine
  constructor
  · intro known
    rw [launch_known known]
    exact ⟨rfl, rfl⟩
  · intro unknown missing
    rw [launch_missing (Bool.eq_false_iff.mpr unknown) missing]
    exact ⟨rfl, rfl⟩
  · intro unknown there
    rw [launch_newer (Bool.eq_false_iff.mpr unknown) there]
    exact ⟨rfl, rfl⟩
  · exact launch_meaning house.described house.placed
  · exact .of_start asked free has created
  · exact .of_start asked free has created

/-! What is known of the newer call -/

theorem Adds.unaware (adds : Adds events before after) (silent : .cloneFallback ∉ events) :
    Unaware before after := by
  constructor
  · rw [adds.missing]
    simp [silent]
  · rw [adds.log, List.count_append, List.count_eq_zero.mpr silent, Nat.add_zero]

theorem create_unaware (request : CreateRequest) (caller : Caller) (answers : MemoryAnswers)
    (handle : Handle) (machine : Machine) :
    Unaware machine (handle.create request caller answers machine).2.1 := by
  have adds := create_adds request caller answers handle machine
  generalize handle.create request caller answers machine = reached at adds
  cases adds with
  | busy => exact ⟨rfl, rfl⟩
  | failed handle cause adds => exact adds.unaware (by simp)
  | created handle adds => exact adds.unaware (by simp)

theorem destroy_unaware (handle : Handle) (machine : Machine) :
    Unaware machine (handle.destroy machine).2.1 := by
  unfold Handle.destroy
  split
  · exact ⟨rfl, rfl⟩
  · split
    · exact ⟨rfl, rfl⟩
    · rename_i memory has
      have told : Adds [.threadDestroyed handle.id] machine
          (machine.emit (.threadDestroyed handle.id)) := (Adds.refl machine).emit (by simp)
      exact (told.trans (release_silent memory _)).unaware (by simp)

theorem finish_unaware (name : Nat) (purpose : JoinPurpose) (result : Except Error Unit)
    (system : System) :
    Unaware system.machine (system.finish name purpose result).1.machine := by
  have told (event : Event) (other : event ≠ .cloneFallback) :
      Unaware system.machine (system.machine.emit event) :=
    ((Adds.refl system.machine).emit other).unaware (by simpa using other.symm)
  unfold System.finish
  split
  · unfold Handle.stopped
    split
    · exact told _ (by simp)
    · exact ⟨rfl, rfl⟩
    · exact told _ (by simp)
  · unfold Handle.dropped
    split
    · exact (releaseNative_silent _ system.machine).unaware (by simp)
    · exact told _ (by simp)

theorem start_machine {caller : Caller} (has : (system.handles name).memory = some memory)
    (created : (system.handles name).Created (system.machine.blocks memory.block)) :
    ∃ event, event ≠ .cloneFallback ∧ (system.start name caller answers).1.machine =
      (Handle.launch answers memory system.machine).2.emit event := by
  by_cases failed : (system.launch answers memory).answer < 0
  · rw [start_failed has created failed]
    refine ⟨_, ?_, rfl⟩
    simp
  · rw [start_launched has created failed]
    refine ⟨_, ?_, rfl⟩
    simp

theorem Move.Launches.findsMissing_iff (launches : move.Launches name answers memory system) :
    move.FindsMissing system ↔ (system.launch answers memory).noticed = true := by
  have only : move.FindsMissing system ↔
      memory.newerCall system.machine ∈ (system.launch answers memory).calls ∧
        answers.clone3 = Launch.notImplemented := by
    constructor
    · rintro ⟨other, further, place, again, asked, missing⟩
      obtain ⟨caller, same⟩ := launches.asked
      obtain ⟨second, call⟩ := again.asked
      cases same.symm.trans call
      cases launches.has.symm.trans again.has
      exact ⟨asked, missing⟩
    · exact fun found => ⟨name, answers, memory, launches, found⟩
  rw [only]
  cases known : system.machine.cloneMissing with
  | true =>
    rw [launch_known known]
    simp [ThreadMemory.newerCall, ThreadMemory.olderCall]
  | false =>
    by_cases missing : answers.clone3 = Launch.notImplemented
    · rw [launch_missing known missing]
      simp [missing]
    · rw [launch_newer known missing]
      simp [missing]

inductive Notices (move : Move) (system : System) (after : Machine) : Prop
  | found (finds : move.FindsMissing system) (unknown : system.machine.cloneMissing = false)
    (missing : after.cloneMissing = true)
    (count : after.log.count .cloneFallback = system.machine.log.count .cloneFallback + 1)
  | nothing (finds : ¬move.FindsMissing system) (unaware : Unaware system.machine after)

theorem launch_notices {caller : Caller}
    (launches : Move.Launches name answers memory system (.call name (.start caller answers)))
    (created : (system.handles name).Created (system.machine.blocks memory.block)) :
    Notices (.call name (.start caller answers)) system
      (system.start name caller answers).1.machine := by
  have noticed := launches.findsMissing_iff
  have adds := launch_adds answers memory system.machine
  obtain ⟨event, other, same⟩ := @start_machine _ _ _ answers caller launches.has created
  have told := adds.emit other
  rw [← same] at told
  cases found : (system.launch answers memory).noticed with
  | true =>
    have flag : (Handle.launch answers memory system.machine).1.noticed = true := found
    rw [flag, if_pos rfl] at told
    have unknown : system.machine.cloneMissing = false := by
      by_contra known
      rw [launch_known (by simpa using known)] at found
      cases found
    refine .found (noticed.mpr found) unknown (by rw [told.missing]; simp) ?_
    rw [told.log, List.count_append]
    simp [other]
  | false =>
    have flag : (Handle.launch answers memory system.machine).1.noticed = false := found
    rw [flag, if_neg Bool.false_ne_true] at told
    refine .nothing ?_ (told.unaware (by simpa using other.symm))
    rw [noticed, found]
    exact Bool.false_ne_true

theorem start_notices {caller : Caller} (sound : Sound system) (free : system.joining name = none) :
    Notices (.call name (.start caller answers)) system
      (system.start name caller answers).1.machine := by
  obtain ⟨state, represents⟩ := sound.handles name
  by_cases other : state = .created
  · subst other
    have lifecycle := represents.lifecycle
    cases represents with
    | created has created => exact launch_notices ⟨⟨caller, rfl⟩, free, has, lifecycle⟩ created
  · have started := @start_misuse answers _ _ _ represents other
    rw [System.start, started]
    refine .nothing ?_ ⟨rfl, rfl⟩
    rintro ⟨name, answers, memory, launches, -⟩
    obtain ⟨caller, same⟩ := launches.asked
    cases same
    exact other (represents.lifecycle.symm.trans launches.created)

theorem step_notices (sound : Sound system) :
    Notices move system (system.step move).1.machine := by
  have calls (silent : ∀ name caller answers, move ≠ .call name (.start caller answers)) :
      ¬move.FindsMissing system := by
    rintro ⟨name, answers, memory, launches, -⟩
    obtain ⟨caller, same⟩ := launches.asked
    exact silent name caller answers same
  cases move with
  | call name call =>
    cases waiting : system.joining name with
    | some joining =>
      have refused : system.step (.call name call) = (system, .waits) := by
        simp [System.step, waiting]
      rw [refused]
      refine .nothing ?_ ⟨rfl, rfl⟩
      rintro ⟨other, answers, memory, launches, -⟩
      obtain ⟨caller, same⟩ := launches.asked
      cases same
      cases waiting.symm.trans launches.free
    | none =>
      rw [System.step_call waiting]
      cases call with
      | create request caller answers => exact .nothing (calls (by simp)) (create_unaware ..)
      | start caller answers => exact start_notices sound waiting
      | stop timeout now =>
        refine .nothing (calls (by simp)) ?_
        simp only [System.call, System.stop]
        split <;> exact ⟨rfl, rfl⟩
      | destroy => exact .nothing (calls (by simp)) (destroy_unaware ..)
      | drop =>
        refine .nothing (calls (by simp)) ?_
        simp only [System.call, System.drop]
        split
        · exact ⟨rfl, rfl⟩
        · exact (releaseNative_silent _ system.machine).unaware (by simp)
  | join name now refusal =>
    refine .nothing (calls (by simp)) ?_
    rcases System.joinStep_cases name now refusal system with
      ⟨⟨waits, same⟩, -⟩ | ⟨joining, result, -, -, -, same⟩
    · simp only [System.step, same]
      exact ⟨rfl, rfl⟩
    · simp only [System.step, same]
      exact finish_unaware name joining.purpose result system
  | thread | wake | rouse =>
    exact .nothing (calls (by simp)) ((step_unsubjected rfl system).unaware (by simp))

/-! Runs -/

theorem System.foundMissing_append {moves : List Move} :
    system.FoundMissing (moves ++ [move]) ↔
      system.FoundMissing moves ∨ move.FindsMissing (system.run moves) := by
  constructor
  · rintro ⟨earlier, finder, later, shape, finds⟩
    rcases List.eq_nil_or_concat later with rfl | ⟨front, last, rfl⟩
    · obtain ⟨rfl, same⟩ := List.append_inj' shape rfl
      cases same
      exact Or.inr finds
    · have split : moves ++ [move] = (earlier ++ finder :: front) ++ [last] := by simpa using shape
      exact Or.inl ⟨earlier, finder, front, (List.append_inj' split rfl).1, finds⟩
  · rintro (⟨earlier, finder, later, rfl, finds⟩ | finds)
    · exact ⟨earlier, finder, later ++ [move], by simp, finds⟩
    · exact ⟨moves, move, [], rfl, finds⟩

theorem run_notices {moves : List Move} (sound : Sound system)
    (lawful : System.LawfulRun moves system) (unknown : system.machine.cloneMissing = false) :
    ((system.run moves).machine.cloneMissing = true ↔ system.FoundMissing moves) ∧
      (system.run moves).machine.log.count .cloneFallback =
        system.machine.log.count .cloneFallback +
          (system.run moves).machine.cloneMissing.toNat := by
  -- From the end of the run: what is known has been found out before the last move, or in it.
  induction moves using List.reverseRecOn with
  | nil =>
    refine ⟨?_, by simp [System.run, unknown]⟩
    rw [System.run, List.foldl_nil, unknown]
    constructor
    · exact fun known => absurd known Bool.false_ne_true
    · rintro ⟨earlier, finder, later, shape, -⟩
      simp at shape
  | append_singleton earlier move ih =>
    obtain ⟨before, -, -⟩ := System.lawful_append.mp lawful
    obtain ⟨known, count⟩ := ih before
    have stepped : system.run (earlier ++ [move]) = ((system.run earlier).step move).1 := by
      rw [System.run_append]
      rfl
    rw [System.foundMissing_append, stepped]
    cases @step_notices _ move (run_sound sound before) with
    | found finds missing now told =>
      constructor
      · exact ⟨fun _ => Or.inr finds, fun _ => now⟩
      · rw [told, count, missing, now]
        rfl
    | nothing finds unaware =>
      constructor
      · rw [unaware.missing, known]
        exact ⟨Or.inl, fun found => found.resolve_right finds⟩
      · rw [unaware.count, unaware.missing, count]

/-! Trying again -/

theorem ControlBlock.unlaunched_of_detached {first second : ControlBlock}
    (same : second.detached = first.detached) : second.unlaunched = first.unlaunched :=
  congrArg (fun block : ControlBlock => { block with joinWord := 0, arguments := {} }) same

theorem ThreadMemory.launchedBlock_congr (id : Nat)
    (same : (after.blocks memory.block).unlaunched = (before.blocks memory.block).unlaunched) :
    memory.launchedBlock id after = { memory.launchedBlock id before with
      next := (after.blocks memory.block).next } := by
  simp only [launchedBlock, Launch.arguments]
  generalize after.blocks memory.block = first at same ⊢
  generalize before.blocks memory.block = second at same ⊢
  rcases first with ⟨⟩
  rcases second with ⟨⟩
  simp_all [ControlBlock.unlaunched]

theorem Move.Replaces.subject (replaces : move.Replaces name system) :
    move.subject? = some name := by
  cases move with
  | call other call =>
    cases call with
    | create | destroy | drop => exact congrArg some replaces.1
    | start | stop => exact replaces.elim
  | join other now refusal => exact congrArg some replaces.1
  | thread | wake | rouse => exact replaces.elim

theorem Steady.unlaunched {place id : Nat} {arguments : CloneArguments}
    (steady : Steady place before after)
    (written : after.blocks place =
      { before.blocks place with joinWord := id, arguments := arguments }) (block : Nat) :
    (after.blocks block).unlaunched = (before.blocks block).unlaunched := by
  by_cases same : block = place
  · rw [same, written]
    rfl
  · rw [steady.blocks block same]

theorem Effect.unlaunched (effect : Effect system move next) (sound : Sound system)
    (has : (system.handles name).memory = some memory)
    (created : (system.handles name).Created (system.machine.blocks memory.block))
    (elsewhere : move.subject? ≠ some name)
    (still : next.handles name = system.handles name) :
    (next.machine.blocks memory.block).unlaunched =
      (system.machine.blocks memory.block).unlaunched := by
  have mine : system.held (.handle name) = some memory := has
  cases effect with
  | waited wakes joining waits silent => rfl
  | kept keeps silent => exact ControlBlock.unlaunched_of_detached (keeps.kept mine).block
  | @rehoused other handle state after gone moved represents idle replaces silent =>
    have different : name ≠ other := fun same => elsewhere (same ▸ replaces.subject)
    exact ControlBlock.unlaunched_of_detached
      (moved.others (by simpa using different) mine).block
  | @lost other after gone moved tight silent =>
    have different : name ≠ other := by
      rintro rfl
      have emptied : Handle.empty = system.handles name := (Cells.set_same ..).symm.trans still
      rw [← emptied] at has
      cases has
    exact ControlBlock.unlaunched_of_detached
      (moved.others (by simpa using different) mine).block
  | refused theirs made steady block quiet silent =>
    obtain ⟨arguments, written⟩ := block
    exact steady.unlaunched written _
  | launched theirs made real steady block quiet seen alone =>
    obtain ⟨arguments, written⟩ := block
    exact steady.unlaunched written _
  | joined theirs live gone keeps seen alone =>
    exact ControlBlock.unlaunched_of_detached (keeps.kept mine).block
  | abandoned theirs keeps replaces silent =>
    exact ControlBlock.unlaunched_of_detached (keeps.kept mine).block
  | @stepped owner further thread stage after answers holds found steady advance asked =>
    -- A thread that takes a step has been started, so its block is another one.
    have apart : memory.block ≠ further.block := by
      intro same
      rw [← same, sound.absent has created.word] at found
      cases found
    rw [System.machine_withStage]
    exact congrArg _ (steady.blocks _ apart)

theorem StillReady.of_fails {cause : OsError}
    (fails : LaunchFails name memory cause system (system.step move)) :
    StillReady name memory system (system.step move).1 := by
  have handles : (system.step move).1.handles = system.handles := by rw [fails.rest]
  have blocks : (system.step move).1.machine.blocks =
      system.machine.blocks.set memory.block (memory.launchedBlock 0 system.machine) :=
    congrArg Machine.blocks fails.machine
  constructor
  · rw [handles]
  · rw [blocks, Cells.set_same]
    rfl

theorem step_stillReady (sound : Sound system) (lawful : move.Lawful system)
    (has : (system.handles name).memory = some memory)
    (created : (system.handles name).lifecycle = .created) (fails : move.Fails name system) :
    StillReady name memory system (system.step move).1 := by
  by_cases mine : move.subject? = some name
  · obtain ⟨⟨caller, answers, asked⟩, failed⟩ := fails mine
    cases waiting : system.joining name with
    | some joining =>
      have refused : system.step move = (system, .waits) := by
        simp [asked, System.step, waiting]
      rw [refused]
      exact ⟨rfl, rfl⟩
    | none =>
      have launches : move.Launches name answers memory system :=
        ⟨⟨caller, asked⟩, waiting, has, created⟩
      have obeys := launches.obeys sound
      have real : (system.launch answers memory).answer ≠ 0 := by
        rw [asked] at lawful
        exact launch_answer lawful
      -- A start that has not returned was answered by an error, as no answer is zero.
      have negative : (system.launch answers memory).answer < 0 := by
        by_contra positive
        exact failed (obeys.succeeds (by omega)).result
      exact .of_fails (obeys.fails negative)
  · have still : (system.step move).1.handles name = system.handles name := step_elsewhere mine
    have effect := step_effect sound lawful
    exact ⟨still, effect.unlaunched sound has (sound.created has created) mine still⟩

theorem run_stillReady {moves : List Move} (sound : Sound system)
    (lawful : System.LawfulRun moves system) (has : (system.handles name).memory = some memory)
    (created : (system.handles name).lifecycle = .created) (fails : system.OnlyFails name moves) :
    StillReady name memory system (system.run moves) := by
  induction moves generalizing system with
  | nil => exact ⟨rfl, rfl⟩
  | cons move rest ih =>
    have first := step_stillReady sound lawful.1 has created fails.1
    have later := ih (step_sound sound lawful.1) lawful.2 (by rw [first.handle, has])
      (by rw [first.handle, created]) fails.2
    exact ⟨later.handle.trans first.handle, later.block.trans first.block⟩

theorem StillReady.launchedAlike {later : System} {further : Move} {id : Nat}
    (still : StillReady name memory system later)
    (first : LaunchSucceeds name memory id system (system.step move))
    (second : LaunchSucceeds name memory id later (later.step further)) :
    LaunchedAlike name memory (system.step move).1 (later.step further).1 := by
  constructor
  · rw [first.handles, second.handles, Cells.set_same, Cells.set_same, still.handle]
  · rw [first.blocks, second.blocks, Cells.set_same, Cells.set_same]
    exact memory.launchedBlock_congr id still.block

/-- In every process whose launches get real ids or errors from the kernel, a start goes by the
newer call until the kernel has once answered that it does not know it, and by the older one from
then on. That is told once. A start that fails changes nothing that a later start depends on. -/
theorem launches_fall_back {start : System} {moves : List Move} (fresh : start.Fresh)
    (unknown : start.machine.cloneMissing = false) (lawful : System.LawfulRun moves start) :
    LaunchHistory moves start := by
  have begun := Sound.fresh fresh
  have sound := run_sound begun lawful
  obtain ⟨known, count⟩ := run_notices begun lawful unknown
  constructor
  · intro name answers memory move launches
    rw [← known]
    exact launches.obeys sound
  · intro silent
    rw [← known, Bool.not_eq_true] at silent
    rw [count, silent]
    rfl
  · intro told
    rw [← known] at told
    rw [count, told]
    rfl
  · intro name answers again memory place move further earlier between split launches fails retries
      positive same
    subst split
    obtain ⟨before, meanwhile⟩ := System.lawful_append.mp lawful
    have ready := run_sound begun before
    rw [System.run_append] at sound retries same ⊢
    -- Both launches find the same handle and block, and so leave the same.
    have still := run_stillReady ready meanwhile launches.has launches.created fails
    have unmoved : place = memory := by
      have has := still.handle ▸ retries.has
      cases has.symm.trans launches.has
      rfl
    subst unmoved
    have first := (launches.obeys ready).succeeds positive
    have second := (retries.obeys sound).succeeds (same ▸ positive)
    rw [same] at second
    exact ⟨rfl, still.launchedAlike first second⟩

theorem launches_fall_back_retried :
    let moves : List Move := [.createAt 0 65536 7,
      .call 0 (.start ⟨0, 0⟩ ⟨Launch.notImplemented, -11⟩), .call 0 (.start ⟨0, 0⟩ ⟨-11, 12⟩)]
    (System.run moves {}).machine.log = [.threadCreated 262144 65536 false, .cloneFallback,
        .threadFailed "start" (OsError.message ⟨11⟩), .threadStarted 12] ∧
      LaunchHistory moves {} := by
  intro moves
  have fresh : System.Fresh {} := ⟨fun _ => rfl, rfl, rfl, fun _ => rfl, rfl, rfl⟩
  have first : (MemoryAnswers.upTo 65536 (2 ^ 30)).Lawful {} :=
    MemoryAnswers.upTo_lawful (by decide) (by decide) (by simp)
  have fails : LaunchAnswers.Lawful ⟨Launch.notImplemented, -11⟩ := ⟨by decide, by decide⟩
  have starts : LaunchAnswers.Lawful ⟨-11, 12⟩ := ⟨by decide, by decide⟩
  have lawful : System.LawfulRun moves {} := ⟨first, fails, starts, trivial⟩
  exact ⟨rfl, launches_fall_back fresh rfl lawful⟩

end

end ArenaThreads
