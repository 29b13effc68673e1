import ArenaThreads.Proofs.Process.ContextSteps
import ArenaThreads.Proofs.Process.Preparation
import ArenaThreads.Proofs.Process.Provenance
/-!
What moves write: apart from the functions of threads only a create writes into memory, and only into
what the system maps for it and the storage that its handle has. Calls on handles, waits and the
kernel leave all thread-local memory alone.
-/

namespace ArenaThreads

def Mapping.Holds (address : Nat) (mapping : Mapping) : Prop :=
  mapping.base ≤ address ∧ address < mapping.base + mapping.length

def MemoryAnswers.Maps (address : Nat) (answers : MemoryAnswers) : Prop :=
  ∃ mapping : Mapping, answers.map mapping.length = .ok mapping.base ∧ mapping.Holds address

def ThreadMemory.Stores (address : Nat) (memory : ThreadMemory) : Prop :=
  memory.region.storageStart ≤ address ∧
    address < memory.region.storageStart + memory.region.storage

/-- Thread-local memory stays, and so does every byte out of reach. -/
structure Confined (reach : Nat → Prop) (before after : Machine) : Prop where
  threadLocal : after.threadLocal = before.threadLocal
  bytes : ∀ address, ¬reach address → after.memory address = before.memory address

section

variable {reach further : Nat → Prop} {before between after machine : Machine}
  {sizing : Sizing} {answers : MemoryAnswers} {memory : ThreadMemory} {assignment : Assignment}
  {handle : Handle}

theorem Confined.still (threadLocal : after.threadLocal = before.threadLocal)
    (memory : after.memory = before.memory) : Confined reach before after := by
  constructor
  · exact threadLocal
  · intro address _
    rw [memory]

theorem Confined.refl : Confined reach machine machine := .still rfl rfl

theorem Confined.trans (first : Confined reach before between)
    (second : Confined reach between after) : Confined reach before after := by
  constructor
  · exact second.threadLocal.trans first.threadLocal
  · intro address outside
    exact (second.bytes address outside).trans (first.bytes address outside)

theorem Confined.mono (confined : Confined reach before after)
    (wider : ∀ address, reach address → further address) : Confined further before after := by
  constructor
  · exact confined.threadLocal
  · intro address outside
    exact confined.bytes address fun inside => outside (wider address inside)

theorem reserveRegion_confined :
    Confined answers.Maps machine (machine.reserveRegion sizing answers).2 := by
  unfold Machine.reserveRegion
  cases Region.length? machine.page sizing with
  | none => exact .refl
  | some length =>
    dsimp only
    cases answered : answers.map length with
    | error error => exact .still rfl rfl
    | ok base =>
      have mapped : Confined answers.Maps machine (machine.map length (.ok base)).2 := by
        constructor
        · rfl
        · intro address outside
          apply Memory.write_outside
          by_contra inside
          have holds : Mapping.Holds address ⟨base, length⟩ := by
            simp only [Mapping.Holds]
            omega
          exact outside ⟨⟨base, length⟩, answered, holds⟩
      apply mapped.trans
      dsimp only [Machine.map]
      cases answers.protect <;> exact .still rfl rfl

theorem allocate_confined :
    Confined answers.Maps machine (ThreadMemory.allocate sizing answers machine).2 := by
  have reserved := @reserveRegion_confined machine sizing answers
  unfold ThreadMemory.allocate
  split <;> simpa [*] using reserved

theorem withdraw_confined : Confined reach machine (memory.withdraw machine) := by
  unfold ThreadMemory.withdraw
  split <;> exact .still rfl rfl

theorem emit_confined (event : Event) : Confined reach machine (machine.emit event) :=
  .still rfl rfl

theorem release_confined : Confined reach machine (memory.release machine) :=
  withdraw_confined.trans (.still rfl rfl)

theorem prepare_confined :
    Confined memory.Stores machine (memory.prepare assignment machine).2 := by
  apply withdraw_confined.trans
  cases room : memory.roomy with
  | false =>
    rw [ThreadMemory.prepare_tight room]
    exact .still rfl rfl
  | true =>
    rw [ThreadMemory.prepare_roomy room]
    have bound := ThreadMemory.roomy_bound room
    constructor
    · rfl
    · intro address outside
      apply Memory.write_outside
      by_contra inside
      have stores : memory.Stores address := by
        simp only [ThreadMemory.Stores]
        omega
      exact outside stores

theorem adopt_confined {reused : Bool} :
    Confined memory.Stores machine
      (Handle.adopt assignment sizing reused memory machine).2.1 := by
  apply (@prepare_confined machine memory assignment).trans
  unfold Handle.adopt
  cases memory.prepare assignment machine with
  | mk result prepared =>
    cases result with
    | error error => exact (emit_confined _).trans release_confined
    | ok ready => exact .still rfl rfl

theorem allocated_stores {mapped : Machine} {address : Nat}
    (done : ThreadMemory.allocate sizing answers machine = (.ok memory, mapped))
    (stores : memory.Stores address) : answers.Maps address := by
  obtain ⟨answered, whole, -⟩ := allocate_region done
  obtain ⟨low, high⟩ := stores
  have above : memory.region.base ≤ memory.region.storageStart := by
    simp only [Region.storageStart]
    omega
  have holds : memory.region.mapping.Holds address := by
    simp only [Mapping.Holds, Region.mapping]
    omega
  exact ⟨memory.region.mapping, answered, holds⟩

theorem replace_confined :
    Confined answers.Maps machine (handle.replace assignment sizing answers machine).2.1 := by
  have allocated := @allocate_confined machine sizing answers
  unfold Handle.replace
  cases done : ThreadMemory.allocate sizing answers machine with
  | mk result mapped =>
    rw [done] at allocated
    apply allocated.trans
    cases result with
    | error error => exact .still rfl rfl
    | ok memory =>
      apply Confined.trans _ (adopt_confined.mono fun _ stores => allocated_stores done stores)
      cases handle.memory with
      | none => exact .refl
      | some previous => exact release_confined

def Handle.Creates (answers : MemoryAnswers) (handle : Handle) (address : Nat) : Prop :=
  handle.isLive = false ∧
    (answers.Maps address ∨ ∃ memory, handle.memory = some memory ∧ memory.Stores address)

theorem create_confined (request : CreateRequest) (caller : Caller) :
    Confined (handle.Creates answers) machine
      (handle.create request caller answers machine).2.1 := by
  rw [Handle.create]
  split
  · exact .refl
  · rename_i idle
    have fresh : ∀ address, answers.Maps address → handle.Creates answers address :=
      fun _ maps => ⟨Bool.eq_false_iff.mpr idle, Or.inl maps⟩
    dsimp only
    split
    · rename_i memory has
      split
      · exact adopt_confined.mono fun _ stores =>
          ⟨Bool.eq_false_iff.mpr idle, Or.inr ⟨memory, has, stores⟩⟩
      · exact replace_confined.mono fresh
    · exact replace_confined.mono fresh

theorem start_confined (launch : LaunchAnswers) :
    Confined reach machine (handle.start launch machine).2.1 := by
  have launched (memory : ThreadMemory) :
      Confined reach machine (Handle.launch launch memory machine).2 := by
    unfold Handle.launch
    dsimp only
    split <;> exact .still rfl rfl
  rw [Handle.start]
  split
  · exact .refl
  · rename_i memory has
    split
    · exact .refl
    · dsimp only
      split <;> exact (launched memory).trans (.still rfl rfl)

theorem stopped_confined (result : Except Error Unit) :
    Confined reach machine (handle.stopped result machine).2 := by
  unfold Handle.stopped
  split <;> exact .still rfl rfl

theorem releaseNative_confined : Confined reach machine (handle.releaseNative machine) := by
  unfold Handle.releaseNative
  split
  · exact .refl
  · exact release_confined

theorem destroy_confined : Confined reach machine (handle.destroy machine).2.1 := by
  unfold Handle.destroy
  split
  · exact .refl
  · split
    · exact .refl
    · exact (emit_confined _).trans release_confined

theorem dropped_confined (result : Except Error Unit) :
    Confined reach machine (handle.dropped result machine) := by
  unfold Handle.dropped
  split
  · exact releaseNative_confined
  · exact .still rfl rfl

end

/-! Moves -/

/-- What a move may write into: what a create has to furnish, and anything in a step of a function
that writes. -/
def Move.Writes (system : System) (address : Nat) : Move → Prop
  | .call name (.create _ _ answers) => (system.handles name).Creates answers address
  | .thread block _ => ∃ thread, system.threadAt? block = some thread ∧ thread.stage.Writes
  | _ => False

section

variable {system : System} {reach : Nat → Prop}

theorem call_confined (name : Nat) (call : Call) :
    Confined (fun address => (Move.call name call).Writes system address) system.machine
      (system.call name call).1.machine := by
  cases call with
  | create request caller answers => exact create_confined request caller
  | start caller answers =>
    have started := @start_confined (fun _ => False) system.machine (system.handles name) answers
    simp only [System.call, System.start]
    split <;> exact started
  | stop timeout now =>
    simp only [System.call, System.stop]
    split <;> exact .refl
  | destroy => exact destroy_confined
  | drop =>
    simp only [System.call, System.drop]
    split
    · exact .refl
    · exact releaseNative_confined

theorem finish_confined (name : Nat) (purpose : JoinPurpose) (result : Except Error Unit) :
    Confined reach system.machine (system.finish name purpose result).1.machine := by
  unfold System.finish
  split
  · exact stopped_confined result
  · exact dropped_confined result

theorem joinStep_confined (name : Nat) (now : Instant) (refusal : Option OsError) :
    Confined reach system.machine (system.joinStep name now refusal).1.machine := by
  rcases System.joinStep_cases name now refusal system with
    ⟨⟨waits, same⟩, -⟩ | ⟨joining, result, -, -, -, same⟩
  · rw [same]
    exact .refl
  · rw [same]
    exact finish_confined name joining.purpose result

/-- No move but the step of a thread touches thread-local memory or writes outside of what a create
has to furnish. -/
theorem step_confined {move : Move} (control : ∀ block answers, move ≠ .thread block answers) :
    Confined (fun address => move.Writes system address) system.machine
      (system.step move).1.machine := by
  cases move with
  | call name call =>
    rw [System.step]
    split
    · exact .refl
    · exact call_confined name call
  | thread block answers => exact absurd rfl (control block answers)
  | wake block =>
    obtain ⟨wakes, joining, same⟩ := System.wake_eq block system
    rw [System.step, same]
    exact .refl
  | join name now refusal => exact joinStep_confined name now refusal
  | rouse name outcome => exact .refl

theorem step_bytes {move : Move} {address : Nat} (outside : ¬move.Writes system address) :
    (system.step move).1.machine.memory address = system.machine.memory address := by
  cases move with
  | thread block answers =>
    rw [System.step]
    rcases System.threadStep_cases block answers system with
      ⟨same, -⟩ | ⟨thread, stage, after, found, stepped, same⟩
    · rw [same]
    · have quiet : ¬thread.stage.Writes := fun writes => outside ⟨thread, found, writes⟩
      rw [same, System.machine_withStage, step_memory stepped quiet]
  | _ => exact (step_confined (by simp)).bytes address outside

end

end ArenaThreads
