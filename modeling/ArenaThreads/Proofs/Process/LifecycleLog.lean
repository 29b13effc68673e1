import ArenaThreads.Proofs.Process.Entries
import ArenaThreads.Proofs.Process.LifecycleTable
import ArenaThreads.Proofs.Process.Reporting
/-!
The log is a faithful history of every handle: each operation reports itself as its outcome asks, what
it reports agrees with what the handle's log has told before, and nothing else says anything.
-/

namespace ArenaThreads

/-! The log of one handle -/

def Move.subject? : Move → Option Nat
  | .call name _ | .join name _ _ => some name
  | _ => none

def Move.discards (system : System) (move : Move) : Bool :=
  (system.step move).2 = .returned &&
    match move with
    | .call _ .drop => true
    | .join name _ _ => (system.joining name).any fun joining => joining.purpose = .drop
    | _ => false

namespace System

def news (move : Move) (system : System) : List Event :=
  (system.step move).1.machine.log.drop system.machine.log.length

/-- How the log of a handle goes on with a move. A handle that is dropped leaves no log to the new
one that takes its place. -/
def entriesAfter (name : Nat) (move : Move) (system : System) (entries : List Event) : List Event :=
  if move.subject? = some name then
    if move.discards system then [] else entries ++ system.news move
  else entries

def entriesFrom (name : Nat) : List Event → List Move → System → List Event
  | entries, [], _ => entries
  | entries, move :: rest, system =>
    entriesFrom name (system.entriesAfter name move entries) rest (system.step move).1

def entries (name : Nat) (moves : List Move) (system : System) : List Event :=
  entriesFrom name [] moves system

end System

/-- What an operation of a handle reports, by its outcome and by the log of the handle so far. -/
inductive Reports (name : Nat) (entries : List Event) (system : System) :
    Move → System × CallResult → List Event → Prop
  | waits {next : System} (move : Move) : Reports name entries system move (next, .waits) []
  | created {next : System} (request : CreateRequest) (caller : Caller) (answers : MemoryAnswers) :
    Reports name entries system (.call name (.create request caller answers)) (next, .returned)
      [.threadCreated (request.sizing.rounded system.machine.page).stack
        (request.sizing.rounded system.machine.page).storage
        (Entries.housed entries = some (request.sizing.rounded system.machine.page))]
  | noMemory {next : System} (request : CreateRequest) (caller : Caller) (answers : MemoryAnswers)
    (cause : OsError) :
    Reports name entries system (.call name (.create request caller answers))
      (next, .failed (.error (.outOfMemory cause))) [.threadFailed "create" cause.message]
  | createBusy {next : System} (request : CreateRequest) (caller : Caller) (answers : MemoryAnswers) :
    Reports name entries system (.call name (.create request caller answers))
      (next, .failed (.error .busy)) []
  | started {next : System} {notice : List Event} {id : Nat} (caller : Caller)
    (answers : LaunchAnswers) (noticed : Notice notice) (shown : (next.handles name).id = id)
    (real : id ≠ 0) :
    Reports name entries system (.call name (.start caller answers)) (next, .returned)
      (notice ++ [.threadStarted id])
  | startFailed {next : System} {notice : List Event} (caller : Caller) (answers : LaunchAnswers)
    (cause : OsError) (noticed : Notice notice) :
    Reports name entries system (.call name (.start caller answers))
      (next, .failed (.error (.spawn cause))) (notice ++ [.threadFailed "start" cause.message])
  | startMisused {next : System} (caller : Caller) (answers : LaunchAnswers) (misuse : Misuse) :
    Reports name entries system (.call name (.start caller answers)) (next, .failed (.misuse misuse))
      []
  | stopMisused {next : System} (timeout : Option Duration) (now : Instant) (misuse : Misuse) :
    Reports name entries system (.call name (.stop timeout now)) (next, .failed (.misuse misuse)) []
  /-- Only the first stop that returns well after a start reports. -/
  | stoppedAgain {next : System} (timeout : Option Duration) (now : Instant)
    (waited : Entries.waited entries = true) :
    Reports name entries system (.call name (.stop timeout now)) (next, .returned) []
  | stopped {next : System} (now : Instant) (refusal : Option OsError)
    (purpose : (system.joining name).map Joining.purpose = some .stop)
    (waited : Entries.waited entries = false) :
    Reports name entries system (.join name now refusal) (next, .returned)
      [.threadJoined (Entries.thread entries)]
  | stopTimedOut {next : System} (now : Instant) (refusal : Option OsError)
    (purpose : (system.joining name).map Joining.purpose = some .stop) :
    Reports name entries system (.join name now refusal) (next, .failed (.error .timedOut)) []
  | stopFailed {next : System} (now : Instant) (refusal : Option OsError) (cause : OsError)
    (purpose : (system.joining name).map Joining.purpose = some .stop) :
    Reports name entries system (.join name now refusal) (next, .failed (.error (.wait cause)))
      [.threadFailed "stop" (Error.wait cause).message]
  | destroyed {next : System} {sizing : Sizing} (housed : Entries.housed entries = some sizing) :
    Reports name entries system (.call name .destroy) (next, .returned)
      [.threadDestroyed (Entries.thread entries)]
  | destroyedNothing {next : System} (nothing : Entries.housed entries = none) :
    Reports name entries system (.call name .destroy) (next, .returned) []
  | destroyBusy {next : System} :
    Reports name entries system (.call name .destroy) (next, .failed (.error .busy)) []
  | dropped {next : System} : Reports name entries system (.call name .drop) (next, .returned) []
  | dropJoined {next : System} {joining : Joining} (now : Instant) (refusal : Option OsError)
    (waiting : system.joining name = some joining) (ended : joining.Ends .drop (.ok ())) :
    Reports name entries system (.join name now refusal) (next, .returned) []
  | dropFailed {next : System} {joining : Joining} {error : Error} (now : Instant)
    (refusal : Option OsError) (waiting : system.joining name = some joining)
    (ended : joining.Ends .drop (.error error)) :
    Reports name entries system (.join name now refusal) (next, .returned)
      [.threadFailed "drop" error.message]

/-- What the log of a handle tells is what the handle has. -/
structure Narrates (entries : List Event) (handle : Handle) : Prop where
  housed : Entries.housed entries =
    handle.memory.map fun memory => ⟨memory.region.stack, memory.region.storage⟩
  thread : handle.memory.isSome = true → Entries.thread entries = handle.id
  waited : handle.memory.isSome = true → Entries.waited entries = handle.joined

structure Progress (name : Nat) (entries : List Event) (system : System) (move : Move)
    (outcome : System × CallResult) (events later : List Event) : Prop where
  adds : Adds events system.machine outcome.1.machine
  reports : Reports name entries system move outcome events
  narrates : Narrates later (outcome.1.handles name)
  orderly : Entries.Orderly later

section

variable {entries notice : List Event} {handle : Handle} {event : Event} {sizing : Sizing}

/-! What each event tells -/

theorem Narrates.nothing : Narrates [] .empty := by
  constructor
  · rfl
  · simp [Handle.empty]
  · simp [Handle.empty]

theorem Narrates.aside (narrates : Narrates entries handle) (housing : event.housing? = none)
    (thread : event.thread? = none) (waited : event.waited? = none) :
    Narrates (entries ++ [event]) handle := by
  constructor
  · rw [Entries.housed, Entries.latest_concat, housing]
    exact narrates.housed
  · intro has
    rw [Entries.thread, Entries.latest_concat, thread]
    exact narrates.thread has
  · intro has
    rw [Entries.waited, Entries.latest_concat, waited]
    exact narrates.waited has

theorem Narrates.noticed (narrates : Narrates entries handle) (noticed : Notice notice) :
    Narrates (entries ++ notice) handle := by
  rcases noticed with rfl | rfl
  · rwa [List.append_nil]
  · exact narrates.aside rfl rfl rfl

theorem Entries.Orderly.noticed (orderly : Entries.Orderly entries) (noticed : Notice notice) :
    Entries.Orderly (entries ++ notice) := by
  rcases noticed with rfl | rfl
  · rwa [List.append_nil]
  · exact orderly.concat trivial

theorem Narrates.created {assignment : Assignment} {region : Region} (entries : List Event)
    (reused : Bool) (sized : region.fits sizing = true) :
    Narrates (entries ++ [.threadCreated sizing.stack sizing.storage reused])
      (.ofAssignment assignment ⟨region, true⟩) := by
  simp only [Region.fits, Bool.and_eq_true, decide_eq_true_eq] at sized
  constructor
  · rw [Entries.housed, Entries.latest_concat, ← sized.1, ← sized.2]
    rfl
  · intro has
    rw [Entries.thread, Entries.latest_concat]
    rfl
  · intro has
    rw [Entries.waited, Entries.latest_concat]
    rfl

theorem Narrates.started (narrates : Narrates entries handle) (id : Nat)
    (joined : handle.joined = false) :
    Narrates (entries ++ [.threadStarted id]) { handle with id := id, launched := true } := by
  constructor
  · rw [Entries.housed, Entries.latest_concat]
    exact narrates.housed
  · intro has
    rw [Entries.thread, Entries.latest_concat]
    rfl
  · intro has
    rw [Entries.waited, Entries.latest_concat]
    exact joined.symm

theorem Narrates.joined (narrates : Narrates entries handle) (id : Nat) :
    Narrates (entries ++ [.threadJoined id]) { handle with joined := true } := by
  constructor
  · rw [Entries.housed, Entries.latest_concat]
    exact narrates.housed
  · intro has
    rw [Entries.thread, Entries.latest_concat]
    exact narrates.thread has
  · intro has
    rw [Entries.waited, Entries.latest_concat]
    rfl

theorem Narrates.destroyed (entries : List Event) (id : Nat) :
    Narrates (entries ++ [.threadDestroyed id]) .empty := by
  constructor
  · rw [Entries.housed, Entries.latest_concat]
    rfl
  · simp [Handle.empty]
  · simp [Handle.empty]

theorem Narrates.reuses (narrates : Narrates entries handle) (sizing : Sizing) :
    handle.reuses sizing = decide (Entries.housed entries = some sizing) := by
  rw [narrates.housed, Handle.reuses]
  cases handle.memory with
  | none => rfl
  | some memory =>
    rcases sizing with ⟨stack, storage⟩
    simp [Region.fits]

end

section

variable {system next : System} {name : Nat} {entries events later : List Event}
  {state : Lifecycle} {handle : Handle} {move : Move} {result : CallResult}

theorem Progress.of_handle (now : next.handles name = handle)
    (adds : Adds events system.machine next.machine)
    (reports : Reports name entries system move (next, result) events)
    (narrates : Narrates later handle) (orderly : Entries.Orderly later) :
    Progress name entries system move (next, result) events later :=
  ⟨adds, reports, now ▸ narrates, orderly⟩

theorem Progress.still (now : next.handles name = system.handles name)
    (adds : Adds [] system.machine next.machine)
    (reports : Reports name entries system move (next, result) [])
    (narrates : Narrates entries (system.handles name)) (orderly : Entries.Orderly entries) :
    Progress name entries system move (next, result) [] (entries ++ []) := by
  rw [List.append_nil]
  exact .of_handle now adds reports narrates orderly

/-! Calls -/

theorem create_progress {request : CreateRequest} {caller : Caller} {answers : MemoryAnswers}
    (sound : Sound system) (paged : Pages.Real system.machine.page)
    (lawful : answers.Lawful system.machine) (narrates : Narrates entries (system.handles name))
    (orderly : Entries.Orderly entries) :
    ∃ events, Progress name entries system (.call name (.create request caller answers))
      (system.create name request caller answers) events (entries ++ events) := by
  have mine : system.held (.handle name) = (system.handles name).memory := rfl
  have outcome := create_outcome request caller sound.ownership mine lawful
  have adds := create_adds request caller answers (system.handles name) system.machine
  have reused := narrates.reuses (request.sizing.rounded system.machine.page)
  unfold System.create
  generalize (system.handles name).create request caller answers system.machine = reached
    at outcome adds
  cases outcome with
  | busy live =>
    exact ⟨[], .still (Cells.set_same ..) (.refl _) (.createBusy request caller answers) narrates
      orderly⟩
  | @refused error after idle kept =>
    cases adds with
    | failed handle cause adds =>
      exact ⟨_, .of_handle (Cells.set_same ..) adds (.noMemory request caller answers error)
        (narrates.aside rfl rfl rfl) (orderly.concat trivial)⟩
  | lost idle moved tight =>
    have sized : 0 < max request.sizing.storage 1 := by omega
    exact absurd tight (Nat.not_lt.mpr (paged.roomy sized))
  | created idle moved sized block =>
    cases adds with
    | created handle adds =>
      rw [reused] at adds
      exact ⟨_, .of_handle (Cells.set_same ..) adds (.created request caller answers)
        (.created entries _ sized) (orderly.concat trivial)⟩

theorem start_progress {caller : Caller} {answers : LaunchAnswers} (sound : Sound system)
    (lawful : answers.Lawful) (narrates : Narrates entries (system.handles name))
    (orderly : Entries.Orderly entries) :
    ∃ events, Progress name entries system (.call name (.start caller answers))
      (system.start name caller answers) events (entries ++ events) := by
  obtain ⟨state, represents⟩ := sound.handles name
  by_cases other : state = .created
  · subst other
    cases represents with
    | @created memory has created =>
      have launched := launch_adds answers memory system.machine
      have noticed := Notice.of_noticed (Handle.launch answers memory system.machine).1.noticed
      have real := @launch_answer answers memory system.machine lawful
      have started := @start_created answers _ _ _ has created
      generalize (if (Handle.launch answers memory system.machine).1.noticed then
        [Event.cloneFallback] else []) = notice at launched noticed
      generalize Handle.launch answers memory system.machine = reached at launched real started
      have told := narrates.noticed noticed
      have ordered := orderly.noticed noticed
      by_cases failed : reached.1.answer < 0
      · rw [if_pos failed] at started
        rw [System.start, started]
        refine ⟨_, .of_handle (Cells.set_same ..) (launched.emit (by simp))
          (.startFailed caller answers _ noticed) ?_ ?_⟩
        · rw [← List.append_assoc]
          exact told.aside rfl rfl rfl
        · rw [← List.append_assoc]
          exact ordered.concat trivial
      · have positive : reached.1.answer.toNat ≠ 0 := by omega
        have housed := told.housed
        rw [has] at housed
        have unstarted := (told.thread (by rw [has]; rfl)).trans created.id
        rw [if_neg failed] at started
        rw [System.start, started]
        refine ⟨_, .of_handle (Cells.set_same ..) (launched.emit (by simp))
          (.started caller answers noticed (congrArg Handle.id (Cells.set_same ..)) positive)
          ?_ ?_⟩
        · rw [← List.append_assoc]
          exact told.started _ created.joined
        · rw [← List.append_assoc]
          exact ordered.concat ⟨positive, by rw [housed]; rfl, unstarted⟩
  · have started := @start_misuse answers _ _ _ represents other
    rw [System.start, started]
    exact ⟨[], .still (Cells.set_same ..) (.refl _) (.startMisused caller answers _) narrates
      orderly⟩

theorem stop_progress {timeout : Option Duration} {now : Instant}
    (represents : Represents system.machine (system.handles name) state)
    (narrates : Narrates entries (system.handles name)) (orderly : Entries.Orderly entries) :
    Progress name entries system (.call name (.stop timeout now)) (system.stop name timeout now) []
      (entries ++ []) := by
  unfold System.stop Handle.stopAtOnce?
  cases represents with
  | empty nothing =>
    rw [nothing]
    exact .still rfl (.refl _) (.stopMisused timeout now _) narrates orderly
  | created has created =>
    rw [created.launched]
    exact .still rfl (.refl _) (.stopMisused timeout now _) narrates orderly
  | live has live =>
    rw [live.launched, live.joined, has]
    exact .still rfl (.refl _) (.waits _) narrates orderly
  | joined has joined =>
    have waited := (narrates.waited (by rw [has]; rfl)).trans joined.joined
    rw [joined.launched, joined.joined]
    exact .still rfl (.refl _) (.stoppedAgain timeout now waited) narrates orderly

theorem destroy_progress (represents : Represents system.machine (system.handles name) state)
    (narrates : Narrates entries (system.handles name)) (orderly : Entries.Orderly entries) :
    ∃ events, Progress name entries system (.call name .destroy) (system.destroy name) events
      (entries ++ events) := by
  have housed := narrates.housed
  unfold System.destroy Handle.destroy
  cases live : (system.handles name).isLive with
  | true => exact ⟨[], .still (Cells.set_same ..) (.refl _) .destroyBusy narrates orderly⟩
  | false =>
    cases has : (system.handles name).memory with
    | none =>
      rw [has] at housed
      have emptied : (system.withHandle name .empty system.machine).handles name =
          system.handles name := by
        rw [Handle.empty_of_no_memory represents has]
        exact Cells.set_same ..
      exact ⟨[], .still emptied (.refl _) (.destroyedNothing housed) narrates orderly⟩
    | some memory =>
      rw [has] at housed
      have id := narrates.thread (by rw [has]; rfl)
      have told : Adds [.threadDestroyed (system.handles name).id] system.machine
          (system.machine.emit (.threadDestroyed (system.handles name).id)) :=
        (Adds.refl system.machine).emit (by simp)
      have adds : Adds [.threadDestroyed (Entries.thread entries)] system.machine
          (memory.release (system.machine.emit (.threadDestroyed (system.handles name).id))) := by
        rw [id]
        exact told.trans (release_silent memory _)
      exact ⟨_, .of_handle (Cells.set_same ..) adds (.destroyed housed) (.destroyed entries _)
        (orderly.concat ⟨by rw [housed]; rfl, rfl⟩)⟩

theorem drop_progress (narrates : Narrates entries (system.handles name))
    (orderly : Entries.Orderly entries) :
    (system.drop name).2 = .returned ∧
        Progress name entries system (.call name .drop) (system.drop name) [] [] ∨
      (system.drop name).2 = .waits ∧
        Progress name entries system (.call name .drop) (system.drop name) [] (entries ++ []) := by
  unfold System.drop
  dsimp only
  split
  · exact .inr ⟨rfl, .still rfl (.refl _) (.waits _) narrates orderly⟩
  · exact .inl ⟨rfl, .of_handle (Cells.set_same ..) (releaseNative_silent _ _) .dropped .nothing
      .nil⟩

/-! Waits -/

theorem stopped_progress {join : Join} {result : Except Error Unit} {now : Instant}
    {refusal : Option OsError} (sound : Sound system)
    (waiting : system.joining name = some ⟨.stop, join, false⟩)
    (known : ∀ error, result = .error error → error = .timedOut ∨ ∃ cause, error = .wait cause)
    (narrates : Narrates entries (system.handles name)) (orderly : Entries.Orderly entries) :
    ∃ events, Progress name entries system (.join name now refusal)
      (system.finish name .stop result) events (entries ++ events) := by
  obtain ⟨memory, has, live⟩ := sound.memory_of_live (sound.waiting waiting).live
  have purpose : (system.joining name).map Joining.purpose = some .stop := by
    rw [waiting]
    rfl
  cases result with
  | ok done =>
    have id := narrates.thread (by rw [has]; rfl)
    have unwaited := (narrates.waited (by rw [has]; rfl)).trans live.joined
    have housed := narrates.housed
    rw [has] at housed
    have adds : Adds [.threadJoined (Entries.thread entries)] system.machine
        (system.machine.emit (.threadJoined (system.handles name).id)) := by
      rw [id]
      exact (Adds.refl system.machine).emit (by simp)
    have real : Entries.thread entries ≠ 0 := by
      rw [id]
      exact Nat.ne_of_gt live.id
    exact ⟨_, .of_handle (Cells.set_same ..) adds (.stopped now refusal purpose unwaited)
      (narrates.joined _) (orderly.concat ⟨real, by rw [housed]; rfl, rfl, unwaited⟩)⟩
  | error error =>
    rcases known error rfl with rfl | ⟨cause, rfl⟩
    · exact ⟨[], .still (Cells.set_same ..) (.refl _) (.stopTimedOut now refusal purpose) narrates
        orderly⟩
    · exact ⟨_, .of_handle (Cells.set_same ..) ((Adds.refl system.machine).emit (by simp))
        (.stopFailed now refusal cause purpose) (narrates.aside rfl rfl rfl)
        (orderly.concat trivial)⟩

theorem dropped_progress {join : Join} {result : Except Error Unit} {now : Instant}
    {refusal : Option OsError} (waiting : system.joining name = some ⟨.drop, join, false⟩)
    (phase : join.phase = .finished result) :
    ∃ events, Progress name entries system (.join name now refusal)
      (system.finish name .drop result) events [] := by
  cases result with
  | ok done =>
    exact ⟨[], .of_handle (Cells.set_same ..) (releaseNative_silent _ _)
      (.dropJoined now refusal waiting ⟨rfl, rfl, phase⟩) .nothing .nil⟩
  | error error =>
    exact ⟨_, .of_handle (Cells.set_same ..) ((Adds.refl system.machine).emit (by simp))
      (.dropFailed now refusal waiting ⟨rfl, rfl, phase⟩) .nothing .nil⟩

theorem join_progress {now : Instant} {refusal : Option OsError} (sound : Sound system)
    (unfolds : ∀ joining, system.joining name = some joining → joining.join.Unfolds)
    (narrates : Narrates entries (system.handles name)) (orderly : Entries.Orderly entries) :
    ∃ events, Progress name entries system (.join name now refusal)
      (system.joinStep name now refusal) events
      (if Move.discards system (.join name now refusal) then [] else entries ++ events) := by
  rcases System.joinStep_cases name now refusal system with
    ⟨⟨waits, stepped⟩, -⟩ | ⟨⟨purpose, join, asleep⟩, result, waiting, awake, phase, stepped⟩
  · have kept : Move.discards system (.join name now refusal) = false := by
      simp [Move.discards, System.step, stepped]
    rw [kept, stepped]
    exact ⟨[], .still rfl (.refl _) (.waits _) narrates orderly⟩
  · dsimp only at awake phase stepped
    subst awake
    rw [stepped]
    cases purpose with
    | stop =>
      have kept : Move.discards system (.join name now refusal) = false := by
        simp [Move.discards, waiting]
      rw [kept]
      apply stopped_progress sound waiting _ narrates orderly
      intro error failed
      subst failed
      exact (unfolds _ waiting).known phase
    | drop =>
      have ended : Move.discards system (.join name now refusal) = true := by
        simp [Move.discards, System.step, stepped, System.finish, waiting]
      rw [ended]
      exact dropped_progress waiting phase

theorem Move.discards_call {call : Call} (other : call ≠ .drop) :
    Move.discards system (.call name call) = false := by
  cases call with
  | drop => exact absurd rfl other
  | _ => exact Bool.and_false _

theorem call_progress {call : Call} (sound : Sound system) (paged : Pages.Real system.machine.page)
    (free : system.joining name = none) (lawful : Move.Lawful system (.call name call))
    (narrates : Narrates entries (system.handles name)) (orderly : Entries.Orderly entries) :
    ∃ events, Progress name entries system (.call name call) (system.call name call) events
      (if Move.discards system (.call name call) then [] else entries ++ events) := by
  obtain ⟨state, represents⟩ := sound.handles name
  cases call with
  | create request caller answers =>
    rw [Move.discards_call]
    · exact create_progress sound paged lawful narrates orderly
    · simp
  | start caller answers =>
    rw [Move.discards_call]
    · exact start_progress sound lawful narrates orderly
    · simp
  | stop timeout now =>
    rw [Move.discards_call]
    · exact ⟨[], stop_progress represents narrates orderly⟩
    · simp
  | destroy =>
    rw [Move.discards_call]
    · exact destroy_progress represents narrates orderly
    · simp
  | drop =>
    have made := System.step_call free .drop
    rcases drop_progress narrates orderly with ⟨returned, progress⟩ | ⟨waits, progress⟩
    · have ended : Move.discards system (.call name .drop) = true := by
        simp [Move.discards, made, System.call, returned]
      rw [ended]
      exact ⟨[], progress⟩
    · have kept : Move.discards system (.call name .drop) = false := by
        simp [Move.discards, made, System.call, waits]
      rw [kept]
      exact ⟨[], progress⟩

theorem Adds.news (adds : Adds events system.machine (system.step move).1.machine) :
    system.news move = events := by
  rw [System.news, adds.log, List.drop_left]

theorem step_progress (sound : Sound system) (paged : Pages.Real system.machine.page)
    (lawful : move.Lawful system) (subject : move.subject? = some name)
    (unfolds : ∀ joining, system.joining name = some joining → joining.join.Unfolds)
    (narrates : Narrates entries (system.handles name)) (orderly : Entries.Orderly entries) :
    Progress name entries system move (system.step move) (system.news move)
      (system.entriesAfter name move entries) := by
  have progress : ∃ events, Progress name entries system move (system.step move) events
      (if move.discards system then [] else entries ++ events) := by
    cases move with
    | call other call =>
      cases subject
      cases waiting : system.joining name with
      | none =>
        rw [System.step_call waiting]
        exact call_progress sound paged waiting lawful narrates orderly
      | some joining =>
        have refused : system.step (.call name call) = (system, .waits) := by
          simp [System.step, waiting]
        have kept : Move.discards system (.call name call) = false := by
          simp [Move.discards, refused]
        rw [kept, refused]
        exact ⟨[], .still rfl (.refl _) (.waits _) narrates orderly⟩
    | join other now refusal =>
      cases subject
      exact join_progress sound unfolds narrates orderly
    | thread | wake | rouse => cases subject
  obtain ⟨events, progress⟩ := progress
  rw [System.entriesAfter, if_pos subject, progress.adds.news]
  exact progress

/-! Moves that are no operation of a handle -/

theorem threadStep_silent (block : Nat) (answers : HeapAnswers) (system : System) :
    Adds [] system.machine (system.threadStep block answers).machine := by
  rcases System.threadStep_cases block answers system with
    ⟨same, -⟩ | ⟨thread, stage, after, -, stepped, same⟩
  · rw [same]
    exact .refl _
  · rw [same, System.machine_withStage]
    exact step_silent stepped

theorem step_unsubjected (nobody : move.subject? = none) (system : System) :
    Adds [] system.machine (system.step move).1.machine := by
  cases move with
  | call other call => cases nobody
  | thread block answers => exact threadStep_silent block answers system
  | wake block =>
    obtain ⟨wakes, joining, woken⟩ := System.wake_eq block system
    simp only [System.step, woken]
    exact .refl _
  | join other now refusal => cases nobody
  | rouse other outcome => exact .refl _

theorem step_elsewhere (elsewhere : move.subject? ≠ some name) :
    (system.step move).1.handles name = system.handles name := by
  cases move with
  | call other call =>
    have different : name ≠ other := fun same => elsewhere (congrArg some same.symm)
    rw [System.step]
    split
    · rfl
    · exact (System.call_elsewhere call different).2
  | thread block answers => exact congrFun (System.thread_joining block answers system).2 name
  | wake block =>
    obtain ⟨wakes, joining, woken⟩ := System.wake_eq block system
    simp only [System.step, woken]
  | join other now refusal =>
    have different : name ≠ other := fun same => elsewhere (congrArg some same.symm)
    exact (System.join_elsewhere now refusal different).2
  | rouse other outcome => rfl

/-! Runs -/

theorem System.entriesFrom_append (name : Nat) (entries : List Event) (moves : List Move)
    (move : Move) (system : System) :
    system.entriesFrom name entries (moves ++ [move]) =
      (system.run moves).entriesAfter name move (system.entriesFrom name entries moves) := by
  induction moves generalizing entries system with
  | nil => rfl
  | cons first rest ih => exact ih _ _

theorem System.entries_append (name : Nat) (moves : List Move) (move : Move) (system : System) :
    system.entries name (moves ++ [move]) =
      (system.run moves).entriesAfter name move (system.entries name moves) :=
  entriesFrom_append name [] moves move system

theorem step_narrates (sound : Sound system) (paged : Pages.Real system.machine.page)
    (lawful : move.Lawful system)
    (unfolds : ∀ joining, system.joining name = some joining → joining.join.Unfolds)
    (narrates : Narrates entries (system.handles name)) (orderly : Entries.Orderly entries) :
    Narrates (system.entriesAfter name move entries) ((system.step move).1.handles name) ∧
      Entries.Orderly (system.entriesAfter name move entries) := by
  by_cases subject : move.subject? = some name
  · have progress := step_progress sound paged lawful subject unfolds narrates orderly
    exact ⟨progress.narrates, progress.orderly⟩
  · rw [System.entriesAfter, if_neg subject, step_elsewhere subject]
    exact ⟨narrates, orderly⟩

theorem run_narrates {moves : List Move} (fresh : system.Fresh)
    (paged : Pages.Real system.machine.page) (lawful : System.LawfulRun moves system) (name : Nat) :
    Narrates (system.entries name moves) ((system.run moves).handles name) ∧
      Entries.Orderly (system.entries name moves) := by
  -- From the end of the run: what a move adds depends on what the handle has come to.
  induction moves using List.reverseRecOn with
  | nil =>
    rw [System.run, List.foldl_nil, fresh.handles]
    exact ⟨.nothing, .nil⟩
  | append_singleton earlier move ih =>
    obtain ⟨before, now, -⟩ := System.lawful_append.mp lawful
    obtain ⟨narrates, orderly⟩ := ih before
    rw [System.entries_append, System.run_append]
    exact step_narrates (run_sound (.fresh fresh) before) (run_paged (.fresh fresh) paged before)
      now (fun joining => run_unfolds (fresh.joining _)) narrates orderly

end

structure Chronicle (name : Nat) (moves : List Move) (start : System) : Prop where
  grows : ∀ earlier move later, moves = earlier ++ move :: later →
    (start.run (earlier ++ [move])).machine.log =
      (start.run earlier).machine.log ++ (start.run earlier).news move
  reports : ∀ earlier move later, moves = earlier ++ move :: later →
    move.subject? = some name →
      Reports name (start.entries name earlier) (start.run earlier) move
        ((start.run earlier).step move) ((start.run earlier).news move)
  unsubjected : ∀ earlier move later, moves = earlier ++ move :: later →
    move.subject? = none → (start.run earlier).news move = []
  narrates : Narrates (start.entries name moves) ((start.run moves).handles name)
  starts : ∀ before first between second after,
    start.entries name moves =
        before ++ .threadStarted first :: (between ++ .threadStarted second :: after) →
      ∃ stack storage reused, .threadCreated stack storage reused ∈ between
  stops : ∀ before id after, start.entries name moves = before ++ .threadJoined id :: after →
    ∃ earlier between, before = earlier ++ .threadStarted id :: between ∧
      ∀ event ∈ between, event.housing? = none ∧ event.thread? = none ∧ event.waited? = none

/-- However the moves of a process follow one another, its log is the history of every handle. -/
theorem log_faithful {system : System} {moves : List Move} (fresh : system.Fresh)
    (paged : Pages.Real system.machine.page) (lawful : System.LawfulRun moves system) (name : Nat) :
    Chronicle name moves system := by
  have before {earlier later : List Move} {move : Move} (shape : moves = earlier ++ move :: later) :
      System.LawfulRun earlier system ∧ move.Lawful (system.run earlier) := by
    rw [shape] at lawful
    obtain ⟨first, now, -⟩ := System.lawful_append.mp lawful
    exact ⟨first, now⟩
  -- Every operation is one of some handle, whose log up to there is right.
  have progress {earlier later : List Move} {move : Move} (shape : moves = earlier ++ move :: later)
      {other : Nat} (subject : move.subject? = some other) :
      Progress other (system.entries other earlier) (system.run earlier) move
        ((system.run earlier).step move) ((system.run earlier).news move)
        ((system.run earlier).entriesAfter other move (system.entries other earlier)) := by
    obtain ⟨first, now⟩ := before shape
    obtain ⟨narrates, orderly⟩ := run_narrates fresh paged first other
    exact step_progress (run_sound (.fresh fresh) first) (run_paged (.fresh fresh) paged first) now
      subject (fun joining => run_unfolds (fresh.joining _)) narrates orderly
  obtain ⟨narrates, orderly⟩ := run_narrates fresh paged lawful name
  constructor
  · intro earlier move later shape
    rw [System.run_append]
    cases subject : move.subject? with
    | none =>
      have adds := step_unsubjected subject (system.run earlier)
      rw [adds.news]
      exact adds.log
    | some other => exact (progress shape subject).adds.log
  · intro earlier move later shape subject
    exact (progress shape subject).reports
  · intro earlier move later shape nobody
    exact (step_unsubjected nobody _).news
  · exact narrates
  · intro before first between second after shape
    exact orderly.created_between shape
  · intro before id after shape
    exact orderly.started_before shape

theorem log_faithful_reused :
    let moves : List Move := [.createAt 0 65536 7, .startAs 0 12] ++
      List.replicate 6 (.thread 331520 fun _ => none) ++
      [.call 0 (.stop none ⟨0⟩), .join 0 ⟨0⟩ none, .join 0 ⟨0⟩ none, .createAt 0 (2 ^ 40) 9,
        .call 0 .destroy]
    System.entries 0 moves {} = [.threadCreated 262144 65536 false, .threadStarted 12,
        .threadJoined 12, .threadCreated 262144 65536 true, .threadDestroyed 0] ∧
      Chronicle 0 moves {} := by
  intro moves
  have fresh : System.Fresh {} := ⟨fun _ => rfl, rfl, rfl, fun _ => rfl, rfl, rfl⟩
  have first : (MemoryAnswers.upTo 65536 (2 ^ 30)).Lawful {} :=
    MemoryAnswers.upTo_lawful (by decide) (by decide) (by simp)
  have starts : LaunchAnswers.Lawful ⟨12, 12⟩ := ⟨by decide, by decide⟩
  have mapped : (System.run (moves.take 11) {}).machine.mappings = [⟨65536, 331776⟩] := rfl
  have second : (MemoryAnswers.upTo (2 ^ 40) (2 ^ 30)).Lawful
      (System.run (moves.take 11) {}).machine := by
    apply MemoryAnswers.upTo_lawful (by decide) (by decide)
    rw [mapped]
    simp [Mapping.Apart]
  have lawful : System.LawfulRun moves {} :=
    ⟨first, starts, trivial, trivial, trivial, trivial, trivial, trivial, trivial, trivial, trivial,
      second, trivial, trivial⟩
  exact ⟨rfl, log_faithful fresh ⟨12, by decide, by decide, rfl⟩ lawful 0⟩

end ArenaThreads
