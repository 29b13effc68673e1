import ArenaThreads.Proofs.Process.Effect
/-! What each call on a handle does to a sound process while no call waits on that handle. -/

namespace ArenaThreads

variable {system : System} {move : Move} {name : Nat}

theorem System.step_call (free : system.joining name = none) (call : Call) :
    system.step (.call name call) = system.call name call := by
  rw [System.step, free]
  rfl

theorem create_effect {request : CreateRequest} {caller : Caller} {answers : MemoryAnswers}
    (sound : Sound system) (free : system.joining name = none) (lawful : answers.Lawful system.machine)
    (silent : move.Silent system)
    (replaces : (system.create name request caller answers).2 = .returned →
      move.Replaces name system) :
    Effect system move (system.create name request caller answers).1 := by
  obtain ⟨state, represents⟩ := sound.handles name
  have mine : system.held (.handle name) = (system.handles name).memory := rfl
  have outcome := create_outcome request caller sound.ownership mine lawful
  unfold System.create at replaces ⊢
  generalize (system.handles name).create request caller answers system.machine = reached
    at outcome replaces
  have idle := System.idle_eq free
  cases outcome with
  | busy live => exact .still free (Keeps.refl sound.ownership) silent
  | refused _ kept => exact .still free kept silent
  | lost still moved tight =>
    have sized : 0 < max request.sizing.storage 1 := by omega
    have effect : Effect system move ((system.idle name).withHandle name .empty _) :=
      .lost (represents.word still) moved ⟨_, sized, tight⟩ silent
    rwa [idle] at effect
  | @created region after still moved sized block =>
    have prepared : (after.blocks region.block).detached = (ThreadMemory.readyBlock
        (request.assignment caller system.machine) ⟨region, true⟩).detached := block
    obtain ⟨function, argument, result, word, ready⟩ := ControlBlock.detached_fields prepared
    have created : Represents after
        (.ofAssignment (request.assignment caller system.machine) ⟨region, true⟩) .created :=
      .created rfl ⟨⟨congrArg some function.symm, argument.symm⟩, rfl, rfl, rfl, ready, word, result⟩
    have effect : Effect system move ((system.idle name).withHandle name _ after) :=
      .rehoused (represents.word still) moved created rfl (replaces rfl) silent
    rwa [idle] at effect

theorem destroy_effect (sound : Sound system) (free : system.joining name = none)
    (silent : move.Silent system)
    (replaces : (system.destroy name).2 = .returned → move.Replaces name system) :
    Effect system move (system.destroy name).1 := by
  obtain ⟨state, represents⟩ := sound.handles name
  unfold System.destroy Handle.destroy at replaces ⊢
  cases live : (system.handles name).isLive with
  | true =>
    rw [if_pos rfl]
    exact .still free (Keeps.refl sound.ownership) silent
  | false =>
    rw [live, if_neg Bool.false_ne_true] at replaces
    rw [if_neg Bool.false_ne_true]
    cases has : (system.handles name).memory with
    | none =>
      rw [← Handle.empty_of_no_memory represents has]
      exact .still free (Keeps.refl sound.ownership) silent
    | some memory =>
      rw [has] at replaces
      have told := sound.ownership.emit (.threadDestroyed (system.handles name).id)
      have effect := Effect.released told has (represents.word live has) (replaces rfl) silent
      rwa [System.idle_eq free] at effect

theorem drop_effect (sound : Sound system) (free : system.joining name = none)
    (silent : move.Silent system)
    (replaces : (system.drop name).2 = .returned → move.Replaces name system) :
    Effect system move (system.drop name).1 := by
  obtain ⟨state, represents⟩ := sound.handles name
  unfold System.drop at replaces ⊢
  dsimp only at replaces ⊢
  cases live : (system.handles name).isLive with
  | true =>
    rw [if_pos rfl]
    exact .waits none ⟨0⟩ sound live silent
  | false =>
    rw [live, if_neg Bool.false_ne_true] at replaces
    rw [if_neg Bool.false_ne_true]
    cases has : (system.handles name).memory with
    | none =>
      have nothing := Handle.empty_of_no_memory represents has
      rw [Handle.releaseNative, has, ← nothing]
      exact .still free (Keeps.refl sound.ownership) silent
    | some memory =>
      have effect := Effect.released (Keeps.refl sound.ownership) has
        (represents.word live has) (replaces rfl) silent
      rw [Handle.releaseNative, has]
      rwa [System.idle_eq free] at effect

theorem stop_effect {timeout : Option Duration} {now : Instant} (sound : Sound system)
    (silent : move.Silent system) : Effect system move (system.stop name timeout now).1 := by
  unfold System.stop
  cases answered : (system.handles name).stopAtOnce? with
  | some answer =>
    cases answer with
    | error failure => exact .nothing sound silent
    | ok done => exact .nothing sound silent
  | none =>
    refine .waits timeout now sound ?_ silent
    unfold Handle.stopAtOnce? at answered
    split at answered
    · cases answered
    · split at answered
      · cases answered
      · simp_all [Handle.isLive]

/-! Starting -/

section

variable {answers : LaunchAnswers} {memory : ThreadMemory} {machine : Machine} {handle : Handle}

theorem launch_steady (answers : LaunchAnswers) (memory : ThreadMemory) (machine : Machine) :
    Steady memory.block machine (Handle.launch answers memory machine).2 ∧
      Quiet machine (Handle.launch answers memory machine).2 ∧
      ∃ arguments, (Handle.launch answers memory machine).2.blocks memory.block =
        { machine.blocks memory.block with
          joinWord := (Handle.launch answers memory machine).1.answer.toNat
          arguments := arguments } := by
  have blocks : (Handle.launch answers memory machine).2.blocks =
      machine.blocks.set memory.block { machine.blocks memory.block with
        joinWord := (Handle.launch answers memory machine).1.answer.toNat
        arguments := Launch.arguments (memory.block + ControlBlock.joinWordOffset)
          (machine.blocks memory.block) } := by
    unfold Handle.launch
    dsimp only
    split <;> rfl
  have rest : (Handle.launch answers memory machine).2.mappings = machine.mappings ∧
      (Handle.launch answers memory machine).2.registry = machine.registry ∧
      (Handle.launch answers memory machine).2.page = machine.page ∧
      Quiet machine (Handle.launch answers memory machine).2 := by
    unfold Handle.launch
    dsimp only
    split <;> exact ⟨rfl, rfl, rfl, rfl, rfl⟩
  refine ⟨⟨rest.1, rest.2.1, rest.2.2.1, ?_, ?_⟩, rest.2.2.2, _,
    by rw [blocks, Cells.set_same]⟩
  · intro block different
    rw [blocks, Cells.set_other _ _ different]
  · rw [blocks, Cells.set_same]
    rfl

theorem launch_answer (lawful : answers.Lawful) :
    (Handle.launch answers memory machine).1.answer ≠ 0 := by
  simp only [Handle.launch, Launch.run]
  split
  · exact lawful.2
  · split
    · exact lawful.2
    · exact lawful.1

theorem start_created (has : handle.memory = some memory)
    (created : handle.Created (machine.blocks memory.block)) :
    handle.start answers machine =
      if (Handle.launch answers memory machine).1.answer < 0 then
        (handle, (Handle.launch answers memory machine).2.emit (.threadFailed "start"
          (OsError.message ⟨-(Handle.launch answers memory machine).1.answer⟩)),
          .error (.error (.spawn ⟨-(Handle.launch answers memory machine).1.answer⟩)))
      else
        ({ handle with
            id := (Handle.launch answers memory machine).1.answer.toNat, launched := true },
          (Handle.launch answers memory machine).2.emit
            (.threadStarted (Handle.launch answers memory machine).1.answer.toNat), .ok ()) := by
  simp only [Handle.start, has, created.launched, created.state, Bool.false_or, ne_eq,
    not_true_eq_false, decide_false, Bool.false_eq_true, if_false]

theorem start_misuse {state : Lifecycle} (represents : Represents machine handle state)
    (other : state ≠ .created) :
    handle.start answers machine = (handle, machine,
      .error (.misuse (if state = .empty then .startBeforeCreate else .startNotReady))) := by
  cases represents with
  | empty nothing =>
    subst nothing
    rfl
  | created has created => exact absurd rfl other
  | live has live => simp [Handle.start, has, live.launched]
  | joined has joined => simp [Handle.start, has, joined.launched]

end

theorem start_sight {caller : Caller} {answers : LaunchAnswers} (free : system.joining name = none)
    (other : Nat) :
    Move.sight? other system (.call name (.start caller answers)) =
      if name = other ∧ (system.start name caller answers).2 = .returned then some .launched
      else none := by
  rw [Move.sight?, System.step_call free, System.call]

theorem start_silent {caller : Caller} {answers : LaunchAnswers} (free : system.joining name = none)
    (failed : (system.start name caller answers).2 ≠ .returned) :
    Move.Silent system (.call name (.start caller answers)) := fun other => by
  rw [start_sight free, if_neg fun seen => failed seen.2]

section

variable {memory : ThreadMemory} {caller : Caller} {answers : LaunchAnswers}

/-- A launch that the system refuses leaves the handle ready for another start. -/
theorem refused_effect (free : system.joining name = none)
    (has : (system.handles name).memory = some memory)
    (created : (system.handles name).Created (system.machine.blocks memory.block))
    (failed : (Handle.launch answers memory system.machine).1.answer < 0) :
    Effect system (.call name (.start caller answers)) (system.start name caller answers).1 := by
  obtain ⟨steady, quiet, arguments, block⟩ := launch_steady answers memory system.machine
  have started := @start_created answers _ _ _ has created
  rw [if_pos failed] at started
  generalize Handle.launch answers memory system.machine = reached
    at steady quiet block failed started
  have silent : Move.Silent system (.call name (.start caller answers)) :=
    start_silent free (by simp [System.start, started])
  have zero : reached.1.answer.toNat = 0 := Int.toNat_of_nonpos (Int.le_of_lt failed)
  obtain ⟨event, told⟩ : ∃ event, (system.handles name).start answers system.machine =
      (system.handles name, reached.2.emit event, _) := ⟨_, started⟩
  have cleared : (reached.2.emit event).blocks memory.block =
      { system.machine.blocks memory.block with joinWord := 0, arguments := arguments } := by
    rw [← zero]
    exact block
  have effect : Effect system (.call name (.start caller answers))
      ((system.idle name).withHandle name (system.handles name) (reached.2.emit event)) :=
    .refused has created (steady.emit event) ⟨arguments, cleared⟩ ⟨quiet.arenas, quiet.bytes⟩
      silent
  rw [System.idle_eq free] at effect
  rw [System.start, told]
  exact effect

theorem launched_effect (free : system.joining name = none) (lawful : answers.Lawful)
    (has : (system.handles name).memory = some memory)
    (created : (system.handles name).Created (system.machine.blocks memory.block))
    (launched : ¬(Handle.launch answers memory system.machine).1.answer < 0) :
    Effect system (.call name (.start caller answers)) (system.start name caller answers).1 := by
  obtain ⟨steady, quiet, arguments, block⟩ := launch_steady answers memory system.machine
  have real := @launch_answer answers memory system.machine lawful
  have started := @start_created answers _ _ _ has created
  rw [if_neg launched] at started
  generalize Handle.launch answers memory system.machine = reached
    at steady quiet block real launched started
  have positive : 0 < reached.1.answer.toNat := by omega
  have returned : (system.start name caller answers).2 = .returned := by
    simp [System.start, started]
  have seen : Move.sight? name system (.call name (.start caller answers)) = some .launched := by
    rw [start_sight free, if_pos ⟨rfl, returned⟩]
  have alone (other : Nat) (different : other ≠ name) :
      Move.sight? other system (.call name (.start caller answers)) = none := by
    rw [start_sight free, if_neg fun same => different same.1.symm]
  have told := steady.emit (.threadStarted reached.1.answer.toNat)
  have effect : Effect system (.call name (.start caller answers))
      { (system.idle name).withHandle name _ (reached.2.emit _) with
        threads := system.threads ++ [.launched memory.region caller.home] } :=
    .launched has created positive told ⟨arguments, block⟩ ⟨quiet.arenas, quiet.bytes⟩ seen alone
  rw [System.idle_eq free] at effect
  have crew : ((system.handles name).memory.toList.map fun memory =>
      RuntimeThread.launched memory.region caller.home) =
        [.launched memory.region caller.home] := by
    rw [has]
    rfl
  rw [System.start, started]
  dsimp only
  rw [crew]
  exact effect

theorem start_effect (sound : Sound system) (free : system.joining name = none)
    (lawful : answers.Lawful) :
    Effect system (.call name (.start caller answers)) (system.start name caller answers).1 := by
  obtain ⟨state, represents⟩ := sound.handles name
  by_cases other : state = .created
  · subst other
    cases represents with
    | @created memory has created =>
      by_cases failed : (Handle.launch answers memory system.machine).1.answer < 0
      · exact refused_effect free has created failed
      · exact launched_effect free lawful has created failed
  · have started := @start_misuse answers _ _ _ represents other
    have silent : Move.Silent system (.call name (.start caller answers)) :=
      start_silent free (by simp [System.start, started])
    rw [System.start, started]
    exact .still free (Keeps.refl sound.ownership) silent

end

end ArenaThreads
