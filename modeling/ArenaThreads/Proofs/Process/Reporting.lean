import ArenaThreads.Proofs.Process.JoinOutcomes
/-!
What each operation adds to the log, and when it notices that the newer launch call is missing. Only
the operations on handles say anything: memory, arenas and the steps of threads are silent.
-/

namespace ArenaThreads

/-- An operation adds these events to the log, and says so when it finds the newer launch call
missing. -/
structure Adds (events : List Event) (before after : Machine) : Prop where
  log : after.log = before.log ++ events
  missing : after.cloneMissing = (before.cloneMissing || decide (.cloneFallback ∈ events))

def Notice (events : List Event) : Prop := events = [] ∨ events = [.cloneFallback]

section

variable {machine before between after : Machine} {events further : List Event} {event : Event}
  {sizing : Sizing} {memory : ThreadMemory} {handle : Handle} {result : Except Error Unit}

theorem Adds.nothing (log : after.log = before.log)
    (missing : after.cloneMissing = before.cloneMissing) : Adds [] before after :=
  ⟨by rw [log, List.append_nil], by simp [missing]⟩

theorem Adds.refl (machine : Machine) : Adds [] machine machine := .nothing rfl rfl

theorem Adds.trans (first : Adds events before between) (second : Adds further between after) :
    Adds (events ++ further) before after := by
  constructor
  · rw [second.log, first.log, List.append_assoc]
  · rw [second.missing, first.missing, Bool.or_assoc]
    simp

theorem Adds.emit (adds : Adds events before after) (other : event ≠ .cloneFallback) :
    Adds (events ++ [event]) before (after.emit event) := by
  refine adds.trans ⟨rfl, ?_⟩
  simp [Machine.emit, other.symm]

/-! Memory -/

theorem unmap_silent (mapping : Mapping) : Adds [] machine (machine.unmap mapping) :=
  .nothing rfl rfl

theorem reserveRegion_silent (sizing : Sizing) (answers : MemoryAnswers) (machine : Machine) :
    Adds [] machine (machine.reserveRegion sizing answers).2 := by
  unfold Machine.reserveRegion Machine.map
  split
  · exact .refl machine
  · rename_i length fits
    cases answers.map length with
    | error error => exact .nothing rfl rfl
    | ok base =>
      cases answers.protect with
      | some error => exact .nothing rfl rfl
      | none => exact .nothing rfl rfl

theorem allocate_silent (sizing : Sizing) (answers : MemoryAnswers) (machine : Machine) :
    Adds [] machine (ThreadMemory.allocate sizing answers machine).2 := by
  have silent := reserveRegion_silent sizing answers machine
  unfold ThreadMemory.allocate
  generalize machine.reserveRegion sizing answers = reached at silent
  rcases reached with ⟨error | region, after⟩ <;> exact silent

theorem withdraw_silent (memory : ThreadMemory) (machine : Machine) :
    Adds [] machine (memory.withdraw machine) := by
  unfold ThreadMemory.withdraw
  split
  · exact .nothing rfl rfl
  · exact .refl machine

theorem release_silent (memory : ThreadMemory) (machine : Machine) :
    Adds [] machine (memory.release machine) :=
  (withdraw_silent memory machine).trans (unmap_silent _)

theorem prepare_silent (assignment : Assignment) (memory : ThreadMemory) (machine : Machine) :
    Adds [] machine (memory.prepare assignment machine).2 := by
  have withdrawn := withdraw_silent memory machine
  cases room : memory.roomy with
  | false =>
    rw [ThreadMemory.prepare_tight room]
    exact withdrawn.trans (.nothing rfl rfl)
  | true =>
    rw [ThreadMemory.prepare_roomy room]
    exact withdrawn.trans (.nothing rfl rfl)

theorem releaseNative_silent (handle : Handle) (machine : Machine) :
    Adds [] machine (handle.releaseNative machine) := by
  unfold Handle.releaseNative
  split
  · exact .refl machine
  · exact release_silent _ machine

/-! Threads -/

theorem resize_silent (allocator : Allocator) (block : Option Nat) (oldSize newSize : Nat)
    (answers : HeapAnswers) (machine : Machine) :
    Adds [] machine (machine.resize allocator block oldSize newSize answers).2 := by
  unfold Machine.resize Machine.heapRequest
  repeat' split
  all_goals exact .nothing rfl rfl

theorem fillUp_silent (allocator : Allocator) (size : Nat) (machine : Machine) :
    Adds [] machine (machine.fillUp allocator size).2 := by
  unfold Machine.fillUp
  split <;> exact .nothing rfl rfl

theorem setCurrent_silent (caller : Caller) (context : Nat) (machine : Machine) :
    Adds [] machine (machine.setCurrent caller context).2 := by
  unfold Machine.setCurrent
  split
  · exact .nothing rfl rfl
  · dsimp only
    split <;> exact .nothing rfl rfl

theorem runStep_silent {caller : Caller} {answers : HeapAnswers} {routine rest : Routine}
    (stepped : machine.runStep caller answers routine = some (rest, after)) :
    Adds [] machine after := by
  cases routine with
  | done result => cases stepped
  | current continuation =>
    cases stepped
    exact .refl machine
  | setCurrent context continuation =>
    cases stepped
    exact setCurrent_silent caller context machine
  | resize allocator block oldSize newSize continuation =>
    cases stepped
    exact resize_silent allocator block oldSize newSize answers machine
  | fillUp allocator size continuation =>
    cases stepped
    exact fillUp_silent allocator size machine
  | read start length continuation =>
    cases stepped
    exact .refl machine
  | write start length bytes continuation =>
    cases stepped
    exact .nothing rfl rfl
  | share act continuation =>
    obtain ⟨shared, -, same⟩ := Option.map_eq_some_iff.mp stepped
    cases same
    exact .nothing rfl rfl

theorem step_silent {answers : HeapAnswers} {thread : RuntimeThread} {stage : Option Stage}
    (stepped : thread.step answers machine = some (stage, after)) : Adds [] machine after := by
  rcases thread with ⟨region, caller, current⟩
  cases current with
  | running rest =>
    cases rest with
    | done result =>
      cases stepped
      exact .refl machine
    | _ =>
      rw [RuntimeThread.step] at stepped
      obtain ⟨⟨next, reached⟩, ran, same⟩ := Option.map_eq_some_iff.mp stepped
      cases same
      exact runStep_silent ran
  | _ =>
    cases stepped
    exact .nothing rfl rfl

/-! Handles -/

/-- Whether a create of these rounded sizes can use the handle's memory again. -/
def Handle.reuses (sizing : Sizing) (handle : Handle) : Bool :=
  handle.memory.any fun memory => memory.region.fits sizing

inductive CreateAdds (sizing : Sizing) (reused : Bool) (before : Machine) :
    Handle × Machine × Except Error Unit → Prop
  | busy (handle : Handle) : CreateAdds sizing reused before (handle, before, .error .busy)
  | failed {after : Machine} (handle : Handle) (cause : OsError)
    (adds : Adds [.threadFailed "create" cause.message] before after) :
    CreateAdds sizing reused before (handle, after, .error (.outOfMemory cause))
  | created {after : Machine} (handle : Handle)
    (adds : Adds [.threadCreated sizing.stack sizing.storage reused] before after) :
    CreateAdds sizing reused before (handle, after, .ok ())

theorem adopt_adds (assignment : Assignment) (sizing : Sizing) (reused : Bool)
    (memory : ThreadMemory) (silent : Adds [] before machine) :
    CreateAdds sizing reused before (Handle.adopt assignment sizing reused memory machine) := by
  have prepared := prepare_silent assignment memory machine
  unfold Handle.adopt
  generalize memory.prepare assignment machine = reached at prepared
  rcases reached with ⟨error | ready, after⟩
  · have told : Adds [.threadFailed "create" error.message] before
        (after.emit (.threadFailed "create" error.message)) := (silent.trans prepared).emit (by simp)
    exact .failed .empty error (told.trans (release_silent _ _))
  · exact .created _ ((silent.trans prepared).emit (by simp))

theorem replace_adds (assignment : Assignment) (sizing : Sizing) (answers : MemoryAnswers)
    (handle : Handle) (machine : Machine) :
    CreateAdds sizing false machine (handle.replace assignment sizing answers machine) := by
  have allocated := allocate_silent sizing answers machine
  unfold Handle.replace
  generalize ThreadMemory.allocate sizing answers machine = reached at allocated
  rcases reached with ⟨error | memory, after⟩
  · exact .failed handle error (allocated.emit (by simp))
  · apply adopt_adds
    split
    · exact allocated
    · exact allocated.trans (release_silent _ after)

theorem create_adds (request : CreateRequest) (caller : Caller) (answers : MemoryAnswers)
    (handle : Handle) (machine : Machine) :
    CreateAdds (request.sizing.rounded machine.page)
      (handle.reuses (request.sizing.rounded machine.page)) machine
      (handle.create request caller answers machine) := by
  unfold Handle.create
  split
  · exact .busy handle
  · dsimp only
    split
    · rename_i memory has
      split
      · rename_i fits
        have reuses : handle.reuses (request.sizing.rounded machine.page) = true := by
          simp [Handle.reuses, has, fits]
        rw [reuses]
        exact adopt_adds _ _ true memory (.refl machine)
      · rename_i unfit
        have differs : handle.reuses (request.sizing.rounded machine.page) = false := by
          simpa [Handle.reuses, has] using unfit
        rw [differs]
        exact replace_adds _ _ answers handle machine
    · rename_i nothing
      have differs : handle.reuses (request.sizing.rounded machine.page) = false := by
        simp [Handle.reuses, nothing]
      rw [differs]
      exact replace_adds _ _ answers handle machine

theorem launch_adds (answers : LaunchAnswers) (memory : ThreadMemory) (machine : Machine) :
    Adds (if (Handle.launch answers memory machine).1.noticed then [.cloneFallback] else [])
      machine (Handle.launch answers memory machine).2 := by
  unfold Handle.launch Launch.run
  cases known : machine.cloneMissing with
  | true => exact .nothing rfl known.symm
  | false =>
    by_cases missing : answers.clone3 = Launch.notImplemented
    · simp only [missing, if_true]
      exact ⟨rfl, by simp⟩
    · simp only [missing, if_false]
      exact .nothing rfl known.symm

theorem Notice.of_noticed (noticed : Bool) :
    Notice (if noticed then [.cloneFallback] else []) := by
  cases noticed with
  | true => exact Or.inr rfl
  | false => exact Or.inl rfl

end

end ArenaThreads
