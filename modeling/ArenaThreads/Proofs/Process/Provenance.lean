import ArenaThreads.Proofs.Process.Preparation
import ArenaThreads.Proofs.Process.Soundness
/-!
Where the memory of threads comes from: whoever has a region after a move, somebody had it before, or
the system has just mapped it for a create.
-/

namespace ArenaThreads

def Move.Maps (mapping : Mapping) : Move → Prop
  | .call _ (.create _ _ answers) => answers.map mapping.length = .ok mapping.base
  | _ => False

theorem roomy_region {memory further : ThreadMemory} (same : memory.region = further.region) :
    memory.roomy = further.roomy := by
  unfold ThreadMemory.roomy ThreadMemory.freshArena
  rw [same]

/-! Handles -/

section

variable {machine : Machine} {handle : Handle} {memory : ThreadMemory} {answers : MemoryAnswers}
  {sizing : Sizing} {assignment : Assignment}

/-- New memory is where the system has mapped it, with a page in front as its guard and the storage at
its end. -/
theorem allocate_region {mapped : Machine}
    (done : ThreadMemory.allocate sizing answers machine = (.ok memory, mapped)) :
    answers.map memory.region.mapping.length = .ok memory.region.mapping.base ∧
      memory.region.storageStart + memory.region.storage =
        memory.region.base + memory.region.length ∧
      memory.region.guard = machine.page := by
  unfold ThreadMemory.allocate Machine.reserveRegion at done
  cases long : Region.length? machine.page sizing with
  | none =>
    rw [long] at done
    cases done
  | some length =>
    rw [long] at done
    dsimp only at done
    cases answered : answers.map length with
    | error error =>
      rw [answered] at done
      cases done
    | ok base =>
      rw [answered] at done
      cases failure : answers.protect with
      | some error =>
        rw [failure] at done
        cases done
      | none =>
        rw [failure] at done
        cases done
        have whole := (Option.ite_none_right_eq_some.mp long).2
        refine ⟨answered, ?_, rfl⟩
        rw [← Option.some.inj whole, Region.storageStart]
        simp only [Nat.add_assoc]

theorem adopt_region {reused : Bool} {taken : ThreadMemory}
    (has : (Handle.adopt assignment sizing reused memory machine).1.memory = some taken) :
    taken.region = memory.region ∧ memory.roomy = true := by
  cases room : memory.roomy with
  | false =>
    rw [Handle.adopt, ThreadMemory.prepare_tight room] at has
    cases has
  | true =>
    rw [Handle.adopt, ThreadMemory.prepare_roomy room] at has
    cases has
    exact ⟨rfl, rfl⟩

theorem replace_region {taken : ThreadMemory}
    (has : (handle.replace assignment sizing answers machine).1.memory = some taken) :
    (∃ memory, handle.memory = some memory ∧ memory.region = taken.region) ∨
      answers.map taken.region.mapping.length = .ok taken.region.mapping.base ∧
        taken.roomy = true ∧ taken.region.guard = machine.page := by
  unfold Handle.replace at has
  cases done : ThreadMemory.allocate sizing answers machine with
  | mk result mapped =>
    rw [done] at has
    cases result with
    | error error => exact Or.inl ⟨taken, has, rfl⟩
    | ok memory =>
      obtain ⟨same, room⟩ := adopt_region has
      rw [← roomy_region same] at room
      rw [same]
      obtain ⟨answered, -, guard⟩ := allocate_region done
      exact Or.inr ⟨answered, room, guard⟩

theorem create_region {request : CreateRequest} {caller : Caller} {taken : ThreadMemory}
    (has : (handle.create request caller answers machine).1.memory = some taken) :
    (∃ memory, handle.memory = some memory ∧ memory.region = taken.region) ∨
      answers.map taken.region.mapping.length = .ok taken.region.mapping.base ∧
        taken.roomy = true ∧ taken.region.guard = machine.page := by
  unfold Handle.create at has
  split at has
  · exact Or.inl ⟨taken, has, rfl⟩
  · dsimp only at has
    split at has
    · rename_i memory had
      split at has
      · exact Or.inl ⟨memory, had, (adopt_region has).1.symm⟩
      · exact replace_region has
    · exact replace_region has

theorem start_region (answers : LaunchAnswers) :
    (handle.start answers machine).1.memory = handle.memory := by
  unfold Handle.start
  split
  · rfl
  · split
    · rfl
    · dsimp only
      split <;> rfl

theorem destroy_region {taken : ThreadMemory}
    (has : (handle.destroy machine).1.memory = some taken) : handle.memory = some taken := by
  unfold Handle.destroy at has
  split at has
  · exact has
  · split at has <;> cases has

theorem stopped_region (result : Except Error Unit) :
    (handle.stopped result machine).1.memory = handle.memory := by
  unfold Handle.stopped
  split <;> rfl

theorem abandoned_memory {result : Except Error Unit} (gone : memory ∈ handle.abandoned result) :
    handle.memory = some memory := by
  unfold Handle.abandoned at gone
  split at gone
  · cases gone
  · exact Option.mem_toList.mp gone

end

/-! Moves -/

section

variable {system : System} {owner : Owner} {memory : ThreadMemory} {move : Move}

def System.Had (region : Region) (system : System) : Prop :=
  ∃ owner memory, system.held owner = some memory ∧ memory.region = region

theorem had_withHandle {name : Nat} {handle : Handle} {machine : Machine}
    (mine : (system.withHandle name handle machine).held owner = some memory)
    (own : handle.memory = some memory → system.Had memory.region) : system.Had memory.region := by
  rw [System.held_withHandle] at mine
  by_cases here : owner = .handle name
  · subst here
    rw [Cells.set_same] at mine
    exact own mine
  · rw [Cells.set_other _ _ here] at mine
    exact ⟨owner, memory, mine, rfl⟩

theorem had_rehandled {name : Nat} {handle : Handle} {machine : Machine}
    (mine : (system.withHandle name handle machine).held owner = some memory)
    (same : handle.memory = (system.handles name).memory) : system.Had memory.region := by
  apply had_withHandle mine
  intro has
  exact ⟨.handle name, memory, same.symm.trans has, rfl⟩

theorem create_had {name : Nat} {request : CreateRequest} {caller : Caller}
    {answers : MemoryAnswers}
    (mine : (system.create name request caller answers).1.held owner = some memory) :
    system.Had memory.region ∨
      answers.map memory.region.mapping.length = .ok memory.region.mapping.base ∧
        memory.roomy = true ∧ memory.region.guard = system.machine.page := by
  by_cases maps : answers.map memory.region.mapping.length = .ok memory.region.mapping.base ∧
      memory.roomy = true ∧ memory.region.guard = system.machine.page
  · exact Or.inr maps
  · apply Or.inl
    apply had_withHandle mine
    intro has
    rcases create_region has with ⟨further, had, same⟩ | mapped
    · exact ⟨.handle name, further, had, same⟩
    · exact absurd mapped maps

theorem call_had {name : Nat} {call : Call}
    (mine : (system.call name call).1.held owner = some memory) :
    system.Had memory.region ∨
      (Move.call name call).Maps memory.region.mapping ∧ memory.roomy = true ∧
        memory.region.guard = system.machine.page := by
  cases call with
  | create request caller answers => exact create_had mine
  | start caller answers =>
    have there : (system.withHandle name ((system.handles name).start answers system.machine).1
        ((system.handles name).start answers system.machine).2.1).held owner = some memory := by
      simp only [System.call, System.start] at mine
      split at mine <;> exact mine
    exact Or.inl (had_rehandled there (start_region answers))
  | stop timeout now =>
    apply Or.inl
    simp only [System.call, System.stop] at mine
    split at mine <;> exact ⟨owner, memory, mine, rfl⟩
  | destroy =>
    apply Or.inl
    apply had_withHandle mine
    intro has
    exact ⟨.handle name, memory, destroy_region has, rfl⟩
  | drop =>
    apply Or.inl
    simp only [System.call, System.drop] at mine
    split at mine
    · exact ⟨owner, memory, mine, rfl⟩
    · apply had_withHandle mine
      intro gone
      cases gone

theorem finish_had {name : Nat} {purpose : JoinPurpose} {result : Except Error Unit}
    (mine : (system.finish name purpose result).1.held owner = some memory) :
    system.Had memory.region := by
  unfold System.finish at mine
  dsimp only at mine
  split at mine
  · exact @had_rehandled (system.withJoining name none) _ _ _ _ _ mine (stopped_region result)
  · cases owner with
    | handle other =>
      exact @had_withHandle (system.withJoining name none) (.handle other) _ name .empty
        system.machine mine nofun
    | abandoned index =>
      rcases List.mem_append.mp (List.mem_of_getElem? mine) with old | own
      · obtain ⟨place, there⟩ := List.getElem?_of_mem old
        exact ⟨.abandoned place, memory, there, rfl⟩
      · exact ⟨.handle name, memory, abandoned_memory own, rfl⟩

theorem joinStep_had {name : Nat} {now : Instant} {refusal : Option OsError}
    (mine : (system.joinStep name now refusal).1.held owner = some memory) :
    system.Had memory.region := by
  rcases System.joinStep_cases name now refusal system with
    ⟨⟨waits, same⟩, -⟩ | ⟨joining, result, -, -, -, same⟩
  · rw [same] at mine
    exact ⟨owner, memory, mine, rfl⟩
  · rw [same] at mine
    exact finish_had mine

theorem held_threadStep (block : Nat) (answers : HeapAnswers) :
    (system.threadStep block answers).held = system.held := by
  rcases System.threadStep_cases block answers system with ⟨same, -⟩ | ⟨_, stage, _, -, -, same⟩
  · rw [same]
  · rw [same]
    exact System.held_withStage stage

/-- Whoever has a region after a move, somebody had it before, or the system has mapped it in that
move and it has a page as its guard and room for a context copy. -/
theorem step_had (mine : (system.step move).1.held owner = some memory) :
    system.Had memory.region ∨ move.Maps memory.region.mapping ∧ memory.roomy = true ∧
      memory.region.guard = system.machine.page := by
  have still (same : (system.step move).1.held = system.held) : system.Had memory.region := by
    rw [same] at mine
    exact ⟨owner, memory, mine, rfl⟩
  cases move with
  | call name call =>
    rw [System.step] at mine
    split at mine
    · exact Or.inl ⟨owner, memory, mine, rfl⟩
    · exact call_had mine
  | thread block answers => exact Or.inl (still (held_threadStep block answers))
  | wake block =>
    obtain ⟨wakes, joining, same⟩ := System.wake_eq block system
    apply Or.inl
    apply still
    rw [System.step, same]
    rfl
  | join name now refusal => exact Or.inl (joinStep_had mine)
  | rouse name outcome => exact Or.inl (still rfl)

end

end ArenaThreads
