import ArenaThreads.Proofs.Process.Preparation
/-!
Everything that creating a thread can come to: it is refused, it fails before anything has changed,
it fails when the old memory is gone, or the handle has prepared memory. Nobody else is disturbed.
-/

namespace ArenaThreads

def CreateRequest.assignment (caller : Caller) (machine : Machine) (request : CreateRequest) :
    Assignment :=
  ⟨request.function, request.argument,
    request.context.getD (machine.contextAt (machine.current caller))⟩

def Handle.ofAssignment (assignment : Assignment) (memory : ThreadMemory) : Handle where
  function := some assignment.function
  argument := assignment.argument
  context := assignment.context
  memory := some memory

section

variable {owner : Owner} {held : Holdings} {memory : ThreadMemory} {region : Region}
  {handle : Handle} {machine : Machine} {assignment : Assignment} {sizing : Sizing}

inductive CreateOutcome (owner : Owner) (held : Holdings) (assignment : Assignment)
    (sizing : Sizing) (handle : Handle) (machine : Machine) :
    Handle × Machine × Except Error Unit → Prop
  | busy (live : handle.isLive = true) :
    CreateOutcome owner held assignment sizing handle machine (handle, machine, .error .busy)
  | refused {error : OsError} {after : Machine} (idle : handle.isLive = false)
    (kept : Keeps held machine after) :
    CreateOutcome owner held assignment sizing handle machine
      (handle, after, .error (.outOfMemory error))
  | lost {error : OsError} {after : Machine} (idle : handle.isLive = false)
    (moved : Rehouses owner held machine none after)
    (tight : sizing.storage < Context.size + Arena.alignment) :
    CreateOutcome owner held assignment sizing handle machine
      (.empty, after, .error (.outOfMemory error))
  | created {region : Region} {after : Machine} (idle : handle.isLive = false)
    (moved : Rehouses owner held machine (some ⟨region, true⟩) after)
    (sized : region.fits sizing = true)
    (block : (after.blocks region.block).detached =
      ThreadMemory.readyBlock assignment ⟨region, true⟩) :
    CreateOutcome owner held assignment sizing handle machine
      (.ofAssignment assignment ⟨region, true⟩, after, .ok ())

inductive AdoptOutcome (owner : Owner) (held : Holdings) (assignment : Assignment)
    (region : Region) (machine : Machine) : Handle × Machine × Except Error Unit → Prop
  | lost {error : OsError} {after : Machine} (moved : Rehouses owner held machine none after)
    (tight : region.storage < Context.size + Arena.alignment) :
    AdoptOutcome owner held assignment region machine
      (.empty, after, .error (.outOfMemory error))
  | ready {after : Machine} (moved : Rehouses owner held machine (some ⟨region, true⟩) after)
    (block : (after.blocks region.block).detached =
      ThreadMemory.readyBlock assignment ⟨region, true⟩) :
    AdoptOutcome owner held assignment region machine
      (.ofAssignment assignment ⟨region, true⟩, after, .ok ())

theorem adopt_outcome (assignment : Assignment) (sizing : Sizing) (reused : Bool)
    (sound : Ownership held machine) (available : Available owner held memory machine) :
    AdoptOutcome owner held assignment memory.region machine
      (Handle.adopt assignment sizing reused memory machine) := by
  cases room : memory.roomy with
  | false =>
    obtain ⟨prepared, failed, moved, vacant⟩ :=
      prepare_fails assignment sound available room
    have reported := moved.sound.emit (.threadFailed "create" OsError.outOfMemory.message)
    have released := (Vacant.mk vacant.placed vacant.mapped vacant.apart :
      Vacant _ _ (prepared.emit (.threadFailed "create" OsError.outOfMemory.message))).unmap_keeps
        reported.sound
    have left := (reported.trans released).rehouses owner
    rw [Cells.set_same] at left
    rw [Handle.adopt, failed]
    exact .lost (moved.trans left) (storage_of_tight vacant.placed room)
  | true =>
    obtain ⟨prepared, done, moved, block⟩ :=
      prepare_rehouses assignment sound available room
    have reported := (moved.sound.emit (.threadCreated sizing.stack sizing.storage reused)).rehouses
      owner
    rw [Cells.set_same] at reported
    rw [Handle.adopt, done]
    exact .ready (moved.trans reported) block

theorem AdoptOutcome.create {before : Machine} {now : Option ThreadMemory}
    {outcome : Handle × Machine × Except Error Unit} (idle : handle.isLive = false)
    (sized : region.fits sizing = true) (reached : Rehouses owner held before now machine)
    (adopted : AdoptOutcome owner (held.set owner now) assignment region machine outcome) :
    CreateOutcome owner held assignment sizing handle before outcome := by
  cases adopted with
  | lost moved tight =>
    apply CreateOutcome.lost idle (reached.trans moved)
    simp only [Region.fits, Bool.and_eq_true, decide_eq_true_eq] at sized
    rwa [← sized.2]
  | ready moved block => exact .created idle (reached.trans moved) sized block

theorem Vacant.release {previous : ThreadMemory} (vacant : Vacant held region machine)
    (sound : Ownership held machine) (mine : held owner = some previous) :
    Vacant (held.set owner none) region (previous.release machine) := by
  have differs := Region.mapping_differs vacant.placed (vacant.apart mine)
  have registered := (sound.housed mine).registered
  refine ⟨vacant.placed, ?_, ?_⟩
  · rw [ThreadMemory.release, ThreadMemory.withdraw, if_pos registered]
    exact (List.mem_erase_of_ne differs).mpr vacant.mapped
  · intro owner further theirs
    rcases held_set.mp theirs with ⟨-, same⟩ | ⟨-, theirs⟩
    · cases same
    · exact vacant.apart theirs

/-- The memory that the handle had is released only when there is new memory. -/
theorem replace_outcome {answers : MemoryAnswers} (assignment : Assignment) (sizing : Sizing)
    (sound : Ownership held machine) (mine : held owner = handle.memory)
    (lawful : answers.Lawful machine) (idle : handle.isLive = false) :
    CreateOutcome owner held assignment (sizing.rounded machine.page) handle machine
      (handle.replace assignment (sizing.rounded machine.page) answers machine) := by
  rcases allocate_outcome sizing sound lawful with
    ⟨error, asked, failed, kept⟩ | ⟨region, mapped, done, kept, vacant, sized⟩
  · rw [Handle.replace, failed]
    exact .refused idle (kept.trans (kept.sound.emit _))
  · rw [Handle.replace, done]
    have start := kept.rehouses owner
    cases had : handle.memory with
    | none =>
      rw [had] at mine
      apply AdoptOutcome.create idle sized start
      rw [Cells.set_self]
      have available : Available owner held ⟨region, false⟩ mapped := .vacant mine rfl vacant
      exact adopt_outcome assignment _ false kept.sound available
    | some previous =>
      rw [had] at mine
      have released := release_rehouses kept.sound (.mine mine)
      have reached := start.trans (by rwa [Cells.set_self])
      have available : Available owner (held.set owner none) ⟨region, false⟩
          (previous.release mapped) :=
        .vacant (Cells.set_same ..) rfl (vacant.release kept.sound mine)
      apply AdoptOutcome.create idle sized reached
      exact adopt_outcome assignment _ false reached.sound available

theorem create_outcome {answers : MemoryAnswers} (request : CreateRequest) (caller : Caller)
    (sound : Ownership held machine) (mine : held owner = handle.memory)
    (lawful : answers.Lawful machine) :
    CreateOutcome owner held (request.assignment caller machine)
      (request.sizing.rounded machine.page) handle machine
      (handle.create request caller answers machine) := by
  cases live : handle.isLive with
  | true =>
    rw [Handle.create, if_pos live]
    exact .busy live
  | false =>
    have replaced := replace_outcome (request.assignment caller machine) request.sizing sound mine
      lawful live
    rw [Handle.create, if_neg (by simp [live])]
    cases had : handle.memory with
    | none => exact replaced
    | some memory =>
      dsimp only
      split
      · rename_i sized
        have start := (Keeps.refl sound).rehouses owner
        apply AdoptOutcome.create live sized start
        rw [Cells.set_self]
        exact adopt_outcome (request.assignment caller machine) _ true sound
          (.mine (mine.trans had))
      · exact replaced

end

end ArenaThreads
