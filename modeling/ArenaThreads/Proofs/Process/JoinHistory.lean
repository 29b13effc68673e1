import ArenaThreads.Proofs.Process.ThreadHistory
/-!
Waiting for a thread is sound: a stop returns well only when the thread's function has returned and
the kernel has cleared the join word, and from then on the handle tells the result. Until then it
tells none.
-/

namespace ArenaThreads

def Move.StopsWell (name : Nat) (system : System) (move : Move) : Prop :=
  (system.step move).2 = .returned ∧
    match move with
    | .call other (.stop _ _) => other = name
    | .join other _ _ =>
      other = name ∧ ∃ joining, system.joining name = some joining ∧ joining.purpose = .stop
    | _ => False

/-- A handle that has kept its memory, and what has been seen of its thread meanwhile. -/
structure Follows (name : Nat) (assignment : Assignment) (memory : ThreadMemory)
    (sights : List Sight) (system : System) : Prop where
  sound : Sound system
  paged : Pages.Real system.machine.page
  has : (system.handles name).memory = some memory
  function : (system.handles name).function = some assignment.function
  argument : (system.handles name).argument = assignment.argument
  told : Told (system.handles name) (system.machine.blocks memory.block)
    (system.threadAt? memory.block) sights

section

variable {system : System} {move : Move} {moves : List Move} {name : Nat} {memory : ThreadMemory}
  {sights : List Sight}
  {assignment : Assignment}

theorem System.sights_append (first second : List Move) (system : System) :
    system.sights name (first ++ second) =
      system.sights name first ++ (system.run first).sights name second := by
  induction first generalizing system with
  | nil => rfl
  | cons move rest ih => simp [sights, ih, run_cons]

theorem System.keeping_append {first second : List Move} :
    system.Keeping name (first ++ second) ↔
      system.Keeping name first ∧ (system.run first).Keeping name second := by
  induction first generalizing system with
  | nil => simp [Keeping, run]
  | cons move rest ih => simp [Keeping, ih, run_cons, and_assoc]

theorem Follows.step (follows : Follows name assignment memory sights system)
    (lawful : move.Lawful system) (keeping : ¬move.Replaces name system) :
    Follows name assignment memory (sights ++ (move.sight? name system).toList)
        (system.step move).1 ∧
      (system.machine.blocks memory.block).state.rank ≤
        ((system.step move).1.machine.blocks memory.block).state.rank := by
  have effect := step_effect follows.sound lawful
  obtain ⟨has, fate⟩ := effect.undergoes follows.sound follows.paged follows.has keeping
  have mine : system.held (.handle name) = some memory := follows.has
  refine ⟨⟨effect.sound follows.sound, ?_, has, ?_, ?_, follows.told.step fate⟩, ?_⟩
  · rw [effect.page]
    exact follows.paged
  · rw [fate.filling.1]
    exact follows.function
  · rw [fate.filling.2]
    exact follows.argument
  · exact fate.rank (follows.sound.crewed mine)

theorem Follows.run (follows : Follows name assignment memory sights system)
    (lawful : System.LawfulRun moves system) (keeping : system.Keeping name moves) :
    Follows name assignment memory (sights ++ system.sights name moves) (system.run moves) ∧
      (system.machine.blocks memory.block).state.rank ≤
        ((system.run moves).machine.blocks memory.block).state.rank := by
  induction moves generalizing system sights with
  | nil =>
    rw [System.sights, List.append_nil]
    exact ⟨follows, Nat.le_refl _⟩
  | cons move rest ih =>
    obtain ⟨stepped, higher⟩ := follows.step lawful.1 keeping.1
    obtain ⟨ran, highest⟩ := ih stepped lawful.2 keeping.2
    rw [System.sights, ← List.append_assoc]
    exact ⟨ran, Nat.le_trans higher highest⟩

theorem Follows.body (follows : Follows name assignment memory sights system) :
    ∃ block, (system.handles name).block? system.machine = some block ∧
      block.function = assignment.function ∧ block.argument = assignment.argument := by
  refine ⟨system.machine.blocks memory.block, by simp [Handle.block?, follows.has], ?_⟩
  obtain ⟨state, represents⟩ := follows.sound.handles name
  have filled := represents.filled follows.has
  refine ⟨?_, filled.argument.symm.trans follows.argument⟩
  exact Option.some.inj (filled.function.symm.trans follows.function)

theorem Follows.state (follows : Follows name assignment memory sights system) :
    (system.handles name).state? system.machine =
      some (system.machine.blocks memory.block).state := by
  simp [Handle.state?, Handle.block?, follows.has]

theorem System.free_of_returned {call : Call}
    (returned : (system.step (.call name call)).2 = .returned) : system.joining name = none := by
  cases waiting : system.joining name with
  | none => rfl
  | some joining => simp [step, waiting] at returned

theorem stop_returned {timeout : Option Duration} {now : Instant}
    (returned : (system.step (.call name (.stop timeout now))).2 = .returned) :
    (system.handles name).joined = true := by
  rw [System.step_call (System.free_of_returned returned), System.call, System.stop] at returned
  cases answered : (system.handles name).stopAtOnce? with
  | none => simp [answered] at returned
  | some answer =>
    rw [answered] at returned
    unfold Handle.stopAtOnce? at answered
    split at answered
    · cases answered
      cases returned
    · split at answered
      · assumption
      · split at answered
        · cases answered
          cases returned
        · cases answered

theorem join_returned {joining : Joining} {now : Instant} {refusal : Option OsError}
    (waiting : system.joining name = some joining) (purpose : joining.purpose = .stop)
    (returned : (system.step (.join name now refusal)).2 = .returned) :
    joining.Ends .stop (.ok ()) := by
  simp only [System.step, System.joinStep, waiting] at returned
  split at returned
  · cases returned
  · rename_i awake
    split at returned
    · cases returned
    · cases returned
    · cases returned
    · split at returned
      · cases returned
      · split at returned <;> cases returned
    · rename_i result phase
      simp only [System.finish, purpose] at returned
      cases result with
      | ok done => exact ⟨purpose, by simpa using awake, phase⟩
      | error error => cases returned

theorem Follows.stopsWell (follows : Follows name assignment memory sights system)
    (stops : move.StopsWell name system) :
    ∃ value, sights ++ (move.sight? name system).toList =
      [.launched, .returned value, .cleared, .joined] := by
  rcases stops with ⟨returned, stops⟩
  cases move with
  | call other call =>
    cases call with
    | stop timeout now =>
      subst stops
      have joined := stop_returned returned
      have told : .joined ∈ sights := by
        by_contra unjoined
        cases (follows.told.unjoined unjoined).1.symm.trans joined
      obtain ⟨value, complete, -⟩ := follows.told.complete told
      exact ⟨value, by rw [complete]; rfl⟩
    | _ => exact stops.elim
  | join other now refusal =>
    rcases stops with ⟨rfl, joining, waiting, purpose⟩
    have ended := join_returned waiting purpose returned
    have keeping : ¬Move.Replaces other system (.join other now refusal) := by
      rintro ⟨-, further, result, same, replaces⟩
      cases waiting.symm.trans same
      cases purpose.symm.trans replaces.1
    have allowed : Move.Lawful system (.join other now refusal) := trivial
    have told := (follows.step allowed keeping).1.told
    rw [join_sight waiting, if_pos ⟨rfl, ended⟩] at told ⊢
    obtain ⟨value, complete, -⟩ := told.complete (by simp)
    exact ⟨value, complete⟩
  | thread | wake | rouse => exact stops.elim

theorem create_returned {request : CreateRequest} {caller : Caller} {answers : MemoryAnswers}
    (sound : Sound system) (lawful : answers.Lawful system.machine)
    (created : (system.step (.call name (.create request caller answers))).2 = .returned) :
    ∃ region, (system.step (.call name (.create request caller answers))).1.handles name =
      .ofAssignment (request.assignment caller system.machine) ⟨region, true⟩ := by
  have mine : system.held (.handle name) = (system.handles name).memory := rfl
  have outcome := create_outcome request caller sound.ownership mine lawful
  have free := System.free_of_returned created
  rw [System.step_call free, System.call, System.create] at created ⊢
  generalize (system.handles name).create request caller answers system.machine = reached
    at outcome created
  cases outcome with
  | created => exact ⟨_, Cells.set_same ..⟩
  | busy | refused | lost => cases created

theorem Follows.created {request : CreateRequest} {caller : Caller} {answers : MemoryAnswers}
    (sound : Sound system) (paged : Pages.Real system.machine.page)
    (lawful : answers.Lawful system.machine)
    (created : (system.step (.call name (.create request caller answers))).2 = .returned) :
    ∃ memory, Follows name (request.assignment caller system.machine) memory []
      (system.step (.call name (.create request caller answers))).1 := by
  have fair : Move.Lawful system (.call name (.create request caller answers)) := lawful
  have effect := step_effect sound fair
  obtain ⟨region, made⟩ := create_returned sound lawful created
  generalize (system.step (.call name (.create request caller answers))).1 = next
    at effect made ⊢
  have after := effect.sound sound
  have has : (next.handles name).memory = some ⟨region, true⟩ := by rw [made]; rfl
  obtain ⟨state, represents⟩ := after.handles name
  have word := represents.word (by rw [made]; rfl) has
  refine ⟨⟨region, true⟩, after, ?_, has, by rw [made]; rfl, by rw [made]; rfl, ?_⟩
  · rw [effect.page]
    exact paged
  · rw [after.absent has word, made]
    exact .created rfl rfl

end

structure JoinHistory (name : Nat) (function : ThreadFunction) (argument : Nat)
    (moves : List Move) (start : System) : Prop where
  body : ∃ block, ((start.run moves).handles name).block? (start.run moves).machine = some block ∧
    block.function = function ∧ block.argument = argument
  order : ∃ value, start.sights name moves <+: [.launched, .returned value, .cleared, .joined]
  waited : ∀ move, move.StopsWell name (start.run moves) →
    ∃ value, start.sights name (moves ++ [move]) = [.launched, .returned value, .cleared, .joined]
  result : ∀ value, .joined ∈ start.sights name moves → .returned value ∈ start.sights name moves →
    ((start.run moves).handles name).state? (start.run moves).machine = some .stopped ∧
      ((start.run moves).handles name).result (start.run moves).machine = value
  hidden : .joined ∉ start.sights name moves →
    ((start.run moves).handles name).result (start.run moves).machine = 0
  unread : .launched ∈ start.sights name moves → .joined ∉ start.sights name moves →
    ((start.run moves).handles name).readableStorage? (start.run moves).machine = none
  forward : ∀ first second, moves = first ++ second → ∃ earlier later,
    ((start.run first).handles name).state? (start.run first).machine = some earlier ∧
      ((start.run moves).handles name).state? (start.run moves).machine = some later ∧
      earlier.rank ≤ later.rank

theorem Follows.history {system : System} {moves : List Move} {name : Nat} {memory : ThreadMemory}
    {assignment : Assignment} (follows : Follows name assignment memory [] system)
    (lawful : System.LawfulRun moves system) (keeping : system.Keeping name moves) :
    JoinHistory name assignment.function assignment.argument moves system := by
  have last := (follows.run lawful keeping).1
  rw [List.nil_append] at last
  refine ⟨last.body, last.told.order, ?_, ?_, ?_, ?_, ?_⟩
  · intro move stops
    rw [System.sights_append, System.sights, System.sights, List.append_nil]
    exact last.stopsWell stops
  · intro value joined returned
    obtain ⟨other, complete, absent, flagged, result⟩ := last.told.complete joined
    have same : value = other := by
      rw [complete] at returned
      simpa using returned
    obtain ⟨state, represents⟩ := last.sound.handles name
    have stopped := (represents.joined_of_flag flagged last.has).state
    refine ⟨by rw [last.state, stopped], ?_⟩
    simp [Handle.result, Handle.block?, flagged, last.has, result, same]
  · intro unjoined
    simp [Handle.result, (last.told.unjoined unjoined).1]
  · intro launched unjoined
    have flags := last.told.unjoined unjoined
    simp [Handle.readableStorage?, Handle.isLive, flags.1, flags.2 launched]
  · rintro first second rfl
    rw [System.lawful_append] at lawful
    rw [System.keeping_append] at keeping
    obtain ⟨middle, -⟩ := follows.run lawful.1 keeping.1
    obtain ⟨-, higher⟩ := middle.run lawful.2 keeping.2
    refine ⟨_, _, middle.state, last.state, ?_⟩
    rw [System.run_append]
    exact higher

/-- Join is sound, and a thread's states only move forward, however the moves of a process follow
one another between two calls that replace the memory of a handle. -/
theorem join_sound {system : System} {earlier later : List Move} {name : Nat}
    {request : CreateRequest} {caller : Caller} {answers : MemoryAnswers} (fresh : system.Fresh)
    (paged : Pages.Real system.machine.page)
    (lawful : System.LawfulRun
      (earlier ++ .call name (.create request caller answers) :: later) system)
    (created : ((system.run earlier).step (.call name (.create request caller answers))).2 =
      .returned)
    (keeping : ((system.run earlier).step (.call name (.create request caller answers))).1.Keeping
      name later) :
    JoinHistory name request.function request.argument later
      ((system.run earlier).step (.call name (.create request caller answers))).1 := by
  obtain ⟨first, now, second⟩ := System.lawful_append.mp lawful
  have sound := run_sound (.fresh fresh) first
  have page := run_paged (.fresh fresh) paged first
  obtain ⟨memory, follows⟩ := Follows.created sound page now created
  exact follows.history second keeping

theorem join_sound_identity :
    JoinHistory 0 .identity 7
        (.startAs 0 12 :: List.replicate 6 (.thread 331520 fun _ => none) ++
          [.call 0 (.stop none ⟨0⟩), .join 0 ⟨0⟩ none, .join 0 ⟨0⟩ none])
        (System.run [.createAt 0 65536 7] {}) ∧
      (System.run [.createAt 0 65536 7] {}).sights 0
        (.startAs 0 12 :: List.replicate 6 (.thread 331520 fun _ => none) ++
          [.call 0 (.stop none ⟨0⟩), .join 0 ⟨0⟩ none, .join 0 ⟨0⟩ none]) =
        [.launched, .returned 7, .cleared, .joined] := by
  have fresh : System.Fresh {} := ⟨fun _ => rfl, rfl, rfl, fun _ => rfl, rfl, rfl⟩
  have paged : Pages.Real 4096 := ⟨12, by decide, by decide, rfl⟩
  have answers : (MemoryAnswers.upTo 65536 (2 ^ 30)).Lawful {} :=
    MemoryAnswers.upTo_lawful (by decide) (by decide) (by simp)
  have starts : LaunchAnswers.Lawful ⟨12, 12⟩ := ⟨by decide, by decide⟩
  have waits (system : System) (waiting : (system.joining 0).map Joining.purpose = some .stop) :
      ¬Move.Replaces 0 system (.join 0 ⟨0⟩ none) := by
    rintro ⟨-, joining, result, same, ended⟩
    rw [same, Option.map_some, ended.1] at waiting
    cases waiting
  refine ⟨?_, rfl⟩
  exact @join_sound {} [] _ 0 ⟨.identity, 7, some .standard, {}⟩ ⟨0, 0⟩ (.upTo 65536 (2 ^ 30))
    fresh paged
    ⟨answers, starts, trivial, trivial, trivial, trivial, trivial, trivial, trivial, trivial,
      trivial, trivial⟩
    rfl
    ⟨id, id, id, id, id, id, id, id, waits _ rfl, waits _ rfl, trivial⟩

end ArenaThreads
