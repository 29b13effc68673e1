import ArenaThreads.Proofs.Process.JoinHistory
/-!
The table of the four states: which calls move a handle on, which leave it as it is, and what they
answer. A call that leaves a handle as it is leaves everything that the handle can be asked as it
is.
-/

namespace ArenaThreads

namespace Lifecycle

inductive Moves : Lifecycle → Call → Lifecycle → Prop
  | create {state : Lifecycle} (request : CreateRequest) (caller : Caller) (answers : MemoryAnswers)
    (idle : state ≠ .live) : Moves state (.create request caller answers) .created
  | start (caller : Caller) (answers : LaunchAnswers) : Moves .created (.start caller answers) .live
  | destroy {state : Lifecycle} (idle : state ≠ .live) : Moves state .destroy .empty

inductive Stays : Lifecycle → Call → CallResult → Prop
  | createBusy (request : CreateRequest) (caller : Caller) (answers : MemoryAnswers) :
    Stays .live (.create request caller answers) (.failed (.error .busy))
  | createFailed {state : Lifecycle} (request : CreateRequest) (caller : Caller)
    (answers : MemoryAnswers) (error : OsError) (idle : state ≠ .live) :
    Stays state (.create request caller answers) (.failed (.error (.outOfMemory error)))
  | startEmpty (caller : Caller) (answers : LaunchAnswers) :
    Stays .empty (.start caller answers) (.failed (.misuse .startBeforeCreate))
  | startLive (caller : Caller) (answers : LaunchAnswers) :
    Stays .live (.start caller answers) (.failed (.misuse .startNotReady))
  | startJoined (caller : Caller) (answers : LaunchAnswers) :
    Stays .joined (.start caller answers) (.failed (.misuse .startNotReady))
  | startFailed (caller : Caller) (answers : LaunchAnswers) (error : OsError) :
    Stays .created (.start caller answers) (.failed (.error (.spawn error)))
  | stopEmpty (timeout : Option Duration) (now : Instant) :
    Stays .empty (.stop timeout now) (.failed (.misuse .stopNeverStarted))
  | stopCreated (timeout : Option Duration) (now : Instant) :
    Stays .created (.stop timeout now) (.failed (.misuse .stopNeverStarted))
  | stopLive (timeout : Option Duration) (now : Instant) : Stays .live (.stop timeout now) .waits
  | stopJoined (timeout : Option Duration) (now : Instant) :
    Stays .joined (.stop timeout now) .returned
  | destroyBusy : Stays .live .destroy (.failed (.error .busy))

end Lifecycle

/-- Everything that a handle can be asked. -/
structure View where
  id : Nat
  function : Option ThreadFunction
  argument : Nat
  state : Option ThreadState
  result : Nat
  storage : Option (Nat × Nat)
  readable : Option (List UInt8)
  threadContext : Option Nat
  startingContext : Option Context
  stackSize : Nat

def Handle.view (handle : Handle) (machine : Machine) : View where
  id := handle.id
  function := handle.function
  argument := handle.argument
  state := handle.state? machine
  result := handle.result machine
  storage := handle.storage? machine
  readable := (handle.readableStorage? machine).map fun (start, length) =>
    machine.memory.read start length
  threadContext := handle.threadContext? machine
  startingContext := handle.startingContext?
  stackSize := handle.stackSize machine

structure SameView (before after : ControlBlock) : Prop where
  state : after.state = before.state
  result : after.result = before.result
  stackSize : after.stackSize = before.stackSize
  storage : after.storage = before.storage
  storageSize : after.storageSize = before.storageSize
  context : after.context = before.context

section

variable {handle : Handle} {memory : ThreadMemory} {before after : Machine}

theorem sameView_of_detached {before after : ControlBlock}
    (same : after.detached = before.detached) : SameView before after := by
  simp only [ControlBlock.detached, ControlBlock.mk.injEq] at same
  rcases same with ⟨-, -, result, stackSize, storage, storageSize, -, state, context, -⟩
  exact ⟨state, result, stackSize, storage, storageSize, context⟩

theorem Handle.view_eq (has : handle.memory = some memory)
    (same : SameView (before.blocks memory.block) (after.blocks memory.block))
    (described : (before.blocks memory.block).Describes memory.region)
    (placed : memory.region.Placed)
    (bytes : ∀ address, memory.region.base ≤ address →
      address < memory.region.base + memory.region.length →
        after.memory address = before.memory address) :
    handle.view after = handle.view before := by
  rcases same with ⟨state, result, stackSize, storage, storageSize, context⟩
  have filled := Region.storage_inside placed
  have low : memory.region.base ≤ memory.region.storageStart := by
    simp only [Region.storageStart]
    omega
  have read : after.memory.read (before.blocks memory.block).storage
      (before.blocks memory.block).storageSize =
      before.memory.read (before.blocks memory.block).storage
        (before.blocks memory.block).storageSize := by
    rw [Memory.read_eq, Memory.read_eq, described.storage, described.storageSize]
    apply List.map_congr_left
    intro i inside
    have bound := List.mem_range.mp inside
    exact bytes _ (by omega) (by omega)
  have block (machine : Machine) : handle.block? machine = some (machine.blocks memory.block) := by
    rw [Handle.block?, has]
    rfl
  by_cases live : handle.isLive = true
  · simp [Handle.view, Handle.state?, Handle.result, Handle.storage?, Handle.readableStorage?,
      Handle.threadContext?, Handle.stackSize, block, state, result, stackSize, storage, storageSize,
      context, live]
  · simp [Handle.view, Handle.state?, Handle.result, Handle.storage?, Handle.readableStorage?,
      Handle.threadContext?, Handle.stackSize, block, state, result, stackSize, storage, storageSize,
      context, live, read]

theorem Handle.view_of_none (nothing : handle.memory = none) :
    handle.view after = handle.view before := by
  have block (machine : Machine) : handle.block? machine = none := by
    rw [Handle.block?, nothing]
    rfl
  simp [Handle.view, Handle.state?, Handle.result, Handle.storage?, Handle.readableStorage?,
    Handle.threadContext?, Handle.stackSize, block]

theorem Keeps.view {held : Holdings} {owner : Owner} (keeps : Keeps held before after)
    (sound : Ownership held before) (mine : held owner = handle.memory) :
    handle.view after = handle.view before := by
  cases has : handle.memory with
  | none => exact Handle.view_of_none has
  | some memory =>
    rw [has] at mine
    have house := sound.housed mine
    have kept := keeps.kept mine
    exact Handle.view_eq has (sameView_of_detached kept.block) house.described house.placed
      kept.bytes

end

/-- What a call may come to by the table: it moves the handle on, or the handle and all that it can
be asked stay as they are. -/
inductive Obeys (name : Nat) (call : Call) (state : Lifecycle) (system : System) :
    System × CallResult → Prop
  | moved {next : System} (moves : state.Moves call (next.handles name).lifecycle) :
    Obeys name call state system (next, .returned)
  | stayed {next : System} {result : CallResult} (stays : state.Stays call result)
    (handle : next.handles name = system.handles name)
    (view : (next.handles name).view next.machine =
      (system.handles name).view system.machine) :
    Obeys name call state system (next, result)

section

variable {system : System} {name : Nat} {state : Lifecycle}

theorem Obeys.still {call : Call} {result : CallResult} {after : Machine}
    (stays : state.Stays call result)
    (view : (system.handles name).view after = (system.handles name).view system.machine) :
    Obeys name call state system
      (system.withHandle name (system.handles name) after, result) := by
  have same : (system.withHandle name (system.handles name) after).handles name =
      system.handles name := Cells.set_same ..
  apply Obeys.stayed stays same
  rw [same]
  exact view

theorem create_obeys {request : CreateRequest} {caller : Caller} {answers : MemoryAnswers}
    (sound : Sound system) (paged : Pages.Real system.machine.page)
    (represents : Represents system.machine (system.handles name) state)
    (lawful : answers.Lawful system.machine) :
    Obeys name (.create request caller answers) state system
      (system.create name request caller answers) := by
  have mine : system.held (.handle name) = (system.handles name).memory := rfl
  have outcome := create_outcome request caller sound.ownership mine lawful
  have idle (still : (system.handles name).isLive = false) : state ≠ .live := fun live => by
    rw [represents.isLive.mpr live] at still
    cases still
  unfold System.create
  generalize (system.handles name).create request caller answers system.machine = reached
    at outcome
  cases outcome with
  | busy live =>
    rw [represents.isLive.mp live]
    exact .still (.createBusy request caller answers) rfl
  | @refused error after still kept =>
    exact .still (.createFailed request caller answers error (idle still))
      (kept.view sound.ownership mine)
  | lost still moved tight =>
    have sized : 0 < max request.sizing.storage 1 := by omega
    exact absurd tight (Nat.not_lt.mpr (paged.roomy sized))
  | @created region after still moved sized block =>
    apply Obeys.moved
    have now : (system.withHandle name (.ofAssignment (request.assignment caller system.machine)
        ⟨region, true⟩) after).handles name = _ := Cells.set_same ..
    rw [now]
    exact .create request caller answers (idle still)

theorem destroy_obeys (represents : Represents system.machine (system.handles name) state) :
    Obeys name .destroy state system (system.destroy name) := by
  have emptied (after : Machine) : (system.withHandle name .empty after).handles name = .empty :=
    Cells.set_same ..
  by_cases live : state = .live
  · have refused := represents.isLive.mpr live
    subst live
    rw [System.destroy, Handle.destroy, if_pos refused]
    exact .still .destroyBusy rfl
  · have idle := represents.idle live
    rw [System.destroy, Handle.destroy, if_neg (by simp [idle])]
    cases has : (system.handles name).memory with
    | none =>
      apply Obeys.moved
      rw [emptied]
      exact .destroy live
    | some memory =>
      apply Obeys.moved
      rw [emptied]
      exact .destroy live

theorem stop_obeys {timeout : Option Duration} {now : Instant}
    (represents : Represents system.machine (system.handles name) state) :
    Obeys name (.stop timeout now) state system (system.stop name timeout now) := by
  unfold System.stop Handle.stopAtOnce?
  cases represents with
  | empty nothing =>
    rw [nothing]
    exact .stayed (.stopEmpty timeout now) rfl rfl
  | created has created =>
    rw [created.launched]
    exact .stayed (.stopCreated timeout now) rfl rfl
  | live has live =>
    rw [live.launched, live.joined, has]
    exact .stayed (.stopLive timeout now) rfl rfl
  | joined has joined =>
    rw [joined.launched, joined.joined]
    exact .stayed (.stopJoined timeout now) rfl rfl

theorem Obeys.known {timeout : Option Duration} {now : Instant} {reached : System × CallResult}
    (obeys : Obeys name (.stop timeout now) state system reached) :
    reached.2 ≠ .failed (.misuse .stopDestroyed) := by
  intro destroyed
  cases obeys with
  | moved moves => cases moves
  | stayed stays handle view =>
    cases destroyed
    cases stays

theorem start_obeys {caller : Caller} {answers : LaunchAnswers} (sound : Sound system)
    (represents : Represents system.machine (system.handles name) state) :
    Obeys name (.start caller answers) state system (system.start name caller answers) := by
  by_cases other : state = .created
  · subst other
    cases represents with
    | @created memory has created =>
      have mine : system.held (.handle name) = some memory := has
      have house := sound.ownership.housed mine
      obtain ⟨steady, quiet, arguments, block⟩ := launch_steady answers memory system.machine
      have started := @start_created answers _ _ _ has created
      generalize Handle.launch answers memory system.machine = reached at quiet block started
      by_cases failed : reached.1.answer < 0
      · rw [if_pos failed] at started
        rw [System.start, started]
        have same : SameView (system.machine.blocks memory.block)
            (reached.2.blocks memory.block) := by
          rw [block]
          exact ⟨rfl, rfl, rfl, rfl, rfl, rfl⟩
        apply Obeys.still (.startFailed caller answers _)
        apply Handle.view_eq has same house.described house.placed
        intro address _ _
        exact congrArg (fun bytes : Memory => bytes address) quiet.bytes
      · rw [if_neg failed] at started
        rw [System.start, started]
        apply Obeys.moved
        simpa [System.withHandle, Handle.lifecycle, has, created.joined] using
          Lifecycle.Moves.start caller answers
  · have started := @start_misuse answers _ _ _ represents other
    rw [System.start, started]
    cases represents with
    | empty nothing => exact .still (.startEmpty caller answers) rfl
    | created has created => exact absurd rfl other
    | live has live => exact .still (.startLive caller answers) rfl
    | joined has joined => exact .still (.startJoined caller answers) rfl

end

/-! Waiting -/

inductive WaitObeys (name : Nat) (system : System) : System × CallResult → Prop
  | joined {next : System} (gone : system.joinWord name = 0)
    (handle : next.handles name = { system.handles name with joined := true }) :
    WaitObeys name system (next, .returned)
  | stayed {next : System} {result : CallResult} (unanswered : result ≠ .returned)
    (handle : next.handles name = system.handles name)
    (view : (next.handles name).view next.machine =
      (system.handles name).view system.machine) :
    WaitObeys name system (next, result)

section

variable {system : System} {name : Nat} {joining : Joining} {now : Instant}
  {refusal : Option OsError}

theorem finish_obeys {result : Except Error Unit} (sound : Sound system)
    (waiting : system.joining name = some joining)
    (phase : joining.join.phase = .finished result) :
    WaitObeys name system (system.finish name .stop result) := by
  have mine : system.held (.handle name) = (system.handles name).memory := rfl
  have kept (handle : Handle) (after : Machine) :
      ((system.idle name).withHandle name handle after).handles name = handle :=
    Cells.set_same ..
  have view {after : Machine} (keeps : Keeps system.held system.machine after) :
      (((system.idle name).withHandle name (system.handles name) after).handles name).view after =
        (system.handles name).view system.machine := by
    rw [kept]
    exact keeps.view sound.ownership mine
  cases result with
  | ok done => exact .joined ((sound.waiting waiting).done phase) (kept _ _)
  | error error =>
    have failed : System.resultOf (.error error) ≠ .returned := by
      intro same
      cases same
    cases error with
    | timedOut => exact .stayed failed (kept _ _) (view (Keeps.refl sound.ownership))
    | _ => exact .stayed failed (kept _ _) (view (sound.ownership.emit _))

theorem join_obeys (sound : Sound system) (waiting : system.joining name = some joining)
    (purpose : joining.purpose = .stop) :
    WaitObeys name system (system.joinStep name now refusal) := by
  unfold System.joinStep
  rw [waiting]
  dsimp only
  split
  · exact .stayed nofun rfl rfl
  · split
    · exact .stayed nofun rfl rfl
    · exact .stayed nofun rfl rfl
    · exact .stayed nofun rfl rfl
    · split
      · exact .stayed nofun rfl rfl
      · split <;> exact .stayed nofun rfl rfl
    · rw [purpose]
      exact finish_obeys sound waiting ‹_›

end

structure Refines (name : Nat) (system : System) : Prop where
  unique : ∃! state, Represents system.machine (system.handles name) state
  calls : ∀ state call, Represents system.machine (system.handles name) state →
    system.joining name = none → Move.Lawful system (.call name call) → call ≠ .drop →
      Obeys name call state system (system.step (.call name call))
  waits : ∀ joining now refusal, system.joining name = some joining → joining.purpose = .stop →
    Represents system.machine (system.handles name) .live ∧
      WaitObeys name system (system.step (.join name now refusal))
  stops : ∀ timeout now,
    (system.step (.call name (.stop timeout now))).2 ≠ .failed (.misuse .stopDestroyed)
  others : ∀ other call, name ≠ other →
    (system.step (.call other call)).1.handles name = system.handles name
  elsewhere : ∀ other now refusal, name ≠ other →
    (system.step (.join other now refusal)).1.handles name = system.handles name
  context : ∀ address, (system.handles name).threadContext? system.machine = some address →
    address ≠ 0

theorem Sound.refines {system : System} (sound : Sound system)
    (paged : Pages.Real system.machine.page) (name : Nat) : Refines name system := by
  obtain ⟨state, represents⟩ := sound.handles name
  refine ⟨⟨state, represents, fun other second => second.unique represents⟩, ?_, ?_, ?_, ?_, ?_, ?_⟩
  · intro state call represents free lawful nodrop
    rw [System.step_call free]
    cases call with
    | create request caller answers => exact create_obeys sound paged represents lawful
    | start caller answers => exact start_obeys sound represents
    | stop timeout now => exact stop_obeys represents
    | destroy => exact destroy_obeys represents
    | drop => exact absurd rfl nodrop
  · intro joining now refusal waiting purpose
    have live := represents.isLive.mp (sound.waiting waiting).live
    rw [live] at represents
    exact ⟨represents, join_obeys sound waiting purpose⟩
  · intro timeout now destroyed
    cases waiting : system.joining name with
    | none =>
      rw [System.step_call waiting] at destroyed
      exact (stop_obeys represents).known destroyed
    | some joining => simp [System.step, waiting] at destroyed
  · intro other call different
    rw [System.step]
    split
    · rfl
    · exact (System.call_elsewhere call different).2
  · intro other now refusal different
    exact (System.join_elsewhere now refusal different).2
  · intro address context
    cases has : (system.handles name).memory with
    | none => simp [Handle.threadContext?, Handle.block?, has] at context
    | some memory =>
      have mine : system.held (.handle name) = some memory := has
      have house := sound.ownership.housed mine
      have inside := (Region.block_inside house.placed).2
      simp only [Handle.threadContext?, Handle.block?, has, Option.map_some, Option.some.injEq,
        house.described.context, ControlBlock.size] at context inside
      omega

/-- However the moves of a process follow one another, every handle refines the four states. -/
theorem handles_refine {system : System} {moves : List Move} (fresh : system.Fresh)
    (paged : Pages.Real system.machine.page) (lawful : System.LawfulRun moves system) (name : Nat) :
    Refines name (system.run moves) :=
  (run_sound (.fresh fresh) lawful).refines (run_paged (.fresh fresh) paged lawful) name

theorem handles_refine_started :
    Refines 0 (System.run [.createAt 0 65536 7, .startAs 0 12] {}) := by
  have fresh : System.Fresh {} := ⟨fun _ => rfl, rfl, rfl, fun _ => rfl, rfl, rfl⟩
  have answers : (MemoryAnswers.upTo 65536 (2 ^ 30)).Lawful {} :=
    MemoryAnswers.upTo_lawful (by decide) (by decide) (by simp)
  have starts : LaunchAnswers.Lawful ⟨12, 12⟩ := ⟨by decide, by decide⟩
  have lawful : System.LawfulRun [.createAt 0 65536 7, .startAs 0 12] {} :=
    ⟨answers, starts, trivial⟩
  exact handles_refine fresh ⟨12, by decide, by decide, rfl⟩ lawful 0

end ArenaThreads
