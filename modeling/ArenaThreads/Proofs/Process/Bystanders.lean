import ArenaThreads.Proofs.Process.Enclosure
/-!
Two machines that differ at most in the arena of one region and in the bytes that this lends. Calls on
handles, and the steps of tidy functions in other regions, do the same in both.
-/

namespace ArenaThreads

/-- Machines that differ at most in the arena of a region and in the bytes that it lends. -/
structure Alike (region : Region) (first second : Machine) : Prop where
  rest : second = { first with arenas := second.arenas, memory := second.memory }
  arenas : ∀ place, place ≠ region.block → second.arenas place = first.arenas place
  bytes : ∀ address, ¬region.Lends address → second.memory address = first.memory address

section

variable {region : Region} {first second : Machine} {memory : ThreadMemory} {handle : Handle}
  {answers : MemoryAnswers} {sizing : Sizing} {assignment : Assignment}

namespace Alike

theorem refl (region : Region) (machine : Machine) : Alike region machine machine :=
  ⟨rfl, fun _ _ => rfl, fun _ _ => rfl⟩

theorem write (alike : Alike region first second) (start length : Nat) (bytes others : Nat → UInt8)
    (same : ∀ i, i < length → ¬region.Lends (start + i) → others i = bytes i) :
    Alike region { first with memory := first.memory.write start length bytes }
      { second with memory := second.memory.write start length others } := by
  obtain ⟨rest, arenas, equal⟩ := alike
  refine ⟨?_, arenas, ?_⟩
  · rw [rest]
  · intro address outside
    dsimp only
    rw [Memory.get_write, Memory.get_write]
    split
    case isTrue inside =>
      have place : start + (address - start) = address := by omega
      exact same _ (by omega) (by rwa [place])
    case isFalse _ => exact equal address outside

theorem read (alike : Alike region first second) {start length : Nat}
    (outside : ∀ i, i < length → ¬region.Lends (start + i)) :
    second.memory.read start length = first.memory.read start length := by
  rw [Memory.read_eq, Memory.read_eq]
  apply List.map_congr_left
  intro i member
  exact alike.bytes _ (outside i (List.mem_range.mp member))

theorem place (alike : Alike region first second) (place : Nat) (arena : Arena) :
    Alike region { first with arenas := first.arenas.set place arena }
      { second with arenas := second.arenas.set place arena } := by
  obtain ⟨rest, arenas, bytes⟩ := alike
  refine ⟨?_, ?_, bytes⟩
  · rw [rest]
  · intro other elsewhere
    by_cases here : other = place
    · subst here
      simp
    · simp only [Cells.set_other _ _ here]
      exact arenas other elsewhere

end Alike

def Machine.put (arenas : Cells Nat Arena) (bytes : Memory) (machine : Machine) : Machine :=
  { machine with arenas := arenas, memory := bytes }

/-- What neither looks at arenas and bytes nor changes them. -/
def Oblivious (act : Machine → Machine) : Prop :=
  ∀ arenas bytes machine, act (machine.put arenas bytes) = (act machine).put arenas bytes

def ObliviousWith {α : Type} (act : Machine → α × Machine) : Prop :=
  ∀ arenas bytes machine, act (machine.put arenas bytes) =
    ((act machine).1, (act machine).2.put arenas bytes)

theorem Alike.oblivious {act : Machine → Machine} (alike : Alike region first second)
    (oblivious : Oblivious act) : Alike region (act first) (act second) := by
  have other : act second = (act first).put second.arenas second.memory :=
    (congrArg act alike.rest).trans (oblivious ..)
  have own : act first = (act first).put first.arenas first.memory :=
    oblivious first.arenas first.memory first
  rw [other]
  refine ⟨rfl, ?_, ?_⟩
  · rw [own]
    exact alike.arenas
  · rw [own]
    exact alike.bytes

theorem Alike.obliviousWith {α : Type} {act : Machine → α × Machine}
    (alike : Alike region first second) (oblivious : ObliviousWith act) :
    (act second).1 = (act first).1 ∧ Alike region (act first).2 (act second).2 := by
  have other : act second = ((act first).1, (act first).2.put second.arenas second.memory) :=
    (congrArg act alike.rest).trans (oblivious ..)
  refine ⟨by rw [other], ?_⟩
  have after : Oblivious fun machine => (act machine).2 :=
    fun arenas bytes machine => congrArg Prod.snd (oblivious arenas bytes machine)
  exact alike.oblivious after

theorem Machine.emit_oblivious (event : Event) : Oblivious (Machine.emit event) :=
  fun _ _ _ => rfl

theorem Machine.called_oblivious (call : MemoryCall) : Oblivious (Machine.called call) :=
  fun _ _ _ => rfl

theorem Machine.unmap_oblivious (mapping : Mapping) : Oblivious (Machine.unmap mapping) :=
  fun _ _ _ => rfl

theorem Machine.register_oblivious (block : Nat) : Oblivious (Machine.register block) :=
  fun _ _ _ => rfl

theorem Machine.setBlock_oblivious (place : Nat) (block : ControlBlock) :
    Oblivious fun machine => { machine with blocks := machine.blocks.set place block } :=
  fun _ _ _ => rfl

theorem Machine.setShared_oblivious (shared : Shared) :
    Oblivious fun machine => { machine with shared := shared } :=
  fun _ _ _ => rfl

theorem Machine.updateBlock_oblivious (place : Nat) (change : ControlBlock → ControlBlock) :
    Oblivious (Machine.updateBlock place change) :=
  fun _ _ _ => rfl

theorem ThreadMemory.withdraw_oblivious (memory : ThreadMemory) : Oblivious memory.withdraw := by
  intro arenas bytes machine
  unfold withdraw
  split <;> rfl

theorem ThreadMemory.release_oblivious (memory : ThreadMemory) : Oblivious memory.release := by
  intro arenas bytes machine
  unfold release
  rw [memory.withdraw_oblivious]
  rfl

namespace Handle

theorem releaseNative_oblivious (handle : Handle) : Oblivious handle.releaseNative := by
  intro arenas bytes machine
  unfold releaseNative
  split
  · rfl
  · exact ThreadMemory.release_oblivious _ arenas bytes machine

theorem start_oblivious (answers : LaunchAnswers) (handle : Handle) (arenas : Cells Nat Arena)
    (bytes : Memory) (machine : Machine) :
    handle.start answers (machine.put arenas bytes) = ((handle.start answers machine).1,
      (handle.start answers machine).2.1.put arenas bytes,
      (handle.start answers machine).2.2) := by
  have launched (memory : ThreadMemory) : launch answers memory (machine.put arenas bytes) =
      ((launch answers memory machine).1, (launch answers memory machine).2.put arenas bytes) := by
    unfold launch
    dsimp only [Machine.put]
    split <;> rfl
  unfold start
  cases handle.memory with
  | none => rfl
  | some memory =>
    have blocks : (machine.put arenas bytes).blocks = machine.blocks := rfl
    dsimp only
    rw [launched, blocks]
    split
    · rfl
    · split <;> rfl

theorem stopped_oblivious (result : Except Error Unit) (handle : Handle) :
    ObliviousWith (handle.stopped result) := by
  intro arenas bytes machine
  unfold stopped
  split <;> rfl

theorem destroy_oblivious (handle : Handle) (arenas : Cells Nat Arena) (bytes : Memory)
    (machine : Machine) :
    handle.destroy (machine.put arenas bytes) = ((handle.destroy machine).1,
      (handle.destroy machine).2.1.put arenas bytes, (handle.destroy machine).2.2) := by
  unfold destroy
  split
  · rfl
  · split
    · rfl
    · dsimp only
      have told : (machine.put arenas bytes).emit (.threadDestroyed handle.id) =
          (machine.emit (.threadDestroyed handle.id)).put arenas bytes := rfl
      rw [told, ThreadMemory.release_oblivious]

theorem dropped_oblivious (result : Except Error Unit) (handle : Handle) :
    Oblivious (handle.dropped result) := by
  intro arenas bytes machine
  unfold dropped
  split
  · exact handle.releaseNative_oblivious arenas bytes machine
  · rfl

end Handle

/-! Creates -/

namespace Alike

theorem map (alike : Alike region first second) (length : Nat) (answer : Except OsError Nat) :
    (second.map length answer).1 = (first.map length answer).1 ∧
      Alike region (first.map length answer).2 (second.map length answer).2 := by
  cases answer with
  | error error => exact ⟨rfl, alike.oblivious (Machine.called_oblivious _)⟩
  | ok base =>
    let asks (machine : Machine) : Machine := { machine with
      calls := machine.calls ++ [.map length (.ok base)]
      mappings := ⟨base, length⟩ :: machine.mappings }
    have asked : Alike region (asks first) (asks second) := alike.oblivious fun _ _ _ => rfl
    exact ⟨rfl, asked.write base length _ _ fun _ _ _ => rfl⟩

theorem reserveRegion (alike : Alike region first second) (sizing : Sizing)
    (answers : MemoryAnswers) :
    (second.reserveRegion sizing answers).1 = (first.reserveRegion sizing answers).1 ∧
      Alike region (first.reserveRegion sizing answers).2 (second.reserveRegion sizing answers).2 := by
  have page : second.page = first.page := by rw [alike.rest]
  unfold Machine.reserveRegion
  rw [page]
  cases Region.length? first.page sizing with
  | none => exact ⟨rfl, alike⟩
  | some length =>
    obtain ⟨same, mapped⟩ := alike.map length (answers.map length)
    dsimp only
    generalize first.map length (answers.map length) = one at same mapped ⊢
    generalize second.map length (answers.map length) = other at same mapped ⊢
    rcases one with ⟨answer, one⟩
    rcases other with ⟨answer', other⟩
    obtain rfl : answer' = answer := same
    cases answer' with
    | error error => exact ⟨rfl, mapped⟩
    | ok base =>
      have guarded (failure : Option OsError) : Alike region (one.protect base first.page failure)
          (other.protect base first.page failure) :=
        mapped.oblivious (Machine.called_oblivious _)
      cases answers.protect with
      | none => exact ⟨rfl, guarded none⟩
      | some error => exact ⟨rfl, (guarded (some error)).oblivious (Machine.unmap_oblivious _)⟩

theorem allocate (alike : Alike region first second) (sizing : Sizing) (answers : MemoryAnswers) :
    (ThreadMemory.allocate sizing answers second).1 =
        (ThreadMemory.allocate sizing answers first).1 ∧
      Alike region (ThreadMemory.allocate sizing answers first).2
        (ThreadMemory.allocate sizing answers second).2 := by
  obtain ⟨same, reserved⟩ := alike.reserveRegion sizing answers
  unfold ThreadMemory.allocate
  generalize first.reserveRegion sizing answers = one at same reserved ⊢
  generalize second.reserveRegion sizing answers = other at same reserved ⊢
  rcases one with ⟨answer, one⟩
  rcases other with ⟨answer', other⟩
  obtain rfl : answer' = answer := same
  cases answer' with
  | error error => exact ⟨rfl, reserved⟩
  | ok region => exact ⟨rfl, reserved⟩

theorem prepare (alike : Alike region first second) (memory : ThreadMemory)
    (assignment : Assignment) :
    (memory.prepare assignment second).1 = (memory.prepare assignment first).1 ∧
      Alike region (memory.prepare assignment first).2 (memory.prepare assignment second).2 := by
  have withdrawn := alike.oblivious memory.withdraw_oblivious
  have written (block : ControlBlock) :=
    withdrawn.oblivious (Machine.setBlock_oblivious memory.block block)
  cases room : memory.roomy with
  | false =>
    rw [ThreadMemory.prepare_tight room, ThreadMemory.prepare_tight room]
    exact ⟨rfl, (written _).place memory.block _⟩
  | true =>
    rw [ThreadMemory.prepare_roomy room, ThreadMemory.prepare_roomy room]
    refine ⟨rfl, ?_⟩
    have furnished := ((written (memory.readyBlock assignment)).place memory.block
      (memory.freshArena.take Context.size)).write
        (memory.region.storageStart + Arena.padding memory.region.storageStart) Context.size
        (Context.byte { assignment.context with allocator := .arena memory.block }) _
        fun _ _ _ => rfl
    exact furnished.oblivious (Machine.register_oblivious memory.block)

theorem adopt (alike : Alike region first second) (assignment : Assignment) (sizing : Sizing)
    (reused : Bool) (memory : ThreadMemory) :
    (Handle.adopt assignment sizing reused memory second).1 =
        (Handle.adopt assignment sizing reused memory first).1 ∧
      Alike region (Handle.adopt assignment sizing reused memory first).2.1
        (Handle.adopt assignment sizing reused memory second).2.1 ∧
      (Handle.adopt assignment sizing reused memory second).2.2 =
        (Handle.adopt assignment sizing reused memory first).2.2 := by
  obtain ⟨same, prepared⟩ := alike.prepare memory assignment
  unfold Handle.adopt
  generalize memory.prepare assignment first = one at same prepared ⊢
  generalize memory.prepare assignment second = other at same prepared ⊢
  rcases one with ⟨answer, one⟩
  rcases other with ⟨answer', other⟩
  obtain rfl : answer' = answer := same
  cases answer' with
  | error error =>
    have told := prepared.oblivious (Machine.emit_oblivious (.threadFailed "create" error.message))
    exact ⟨rfl, told.oblivious (ThreadMemory.release_oblivious _), rfl⟩
  | ok ready => exact ⟨rfl, prepared.oblivious (Machine.emit_oblivious _), rfl⟩

theorem replace (alike : Alike region first second) (assignment : Assignment) (sizing : Sizing)
    (answers : MemoryAnswers) (handle : Handle) :
    (handle.replace assignment sizing answers second).1 =
        (handle.replace assignment sizing answers first).1 ∧
      Alike region (handle.replace assignment sizing answers first).2.1
        (handle.replace assignment sizing answers second).2.1 ∧
      (handle.replace assignment sizing answers second).2.2 =
        (handle.replace assignment sizing answers first).2.2 := by
  obtain ⟨same, allocated⟩ := alike.allocate sizing answers
  unfold Handle.replace
  generalize ThreadMemory.allocate sizing answers first = one at same allocated ⊢
  generalize ThreadMemory.allocate sizing answers second = other at same allocated ⊢
  rcases one with ⟨answer, one⟩
  rcases other with ⟨answer', other⟩
  obtain rfl : answer' = answer := same
  cases answer' with
  | error error => exact ⟨rfl, allocated.oblivious (Machine.emit_oblivious _), rfl⟩
  | ok memory =>
    cases handle.memory with
    | none => exact allocated.adopt assignment sizing false memory
    | some previous =>
      exact (allocated.oblivious previous.release_oblivious).adopt assignment sizing false memory

theorem current (alike : Alike region first second) (caller : Caller) :
    second.current caller = first.current caller := by
  rw [alike.rest]
  rfl

theorem create (alike : Alike region first second) (request : CreateRequest) (caller : Caller)
    (answers : MemoryAnswers) (handle : Handle)
    (outside : request.context = none → ∀ i, i < Context.size →
      ¬region.Lends (second.current caller + i)) :
    (handle.create request caller answers second).1 =
        (handle.create request caller answers first).1 ∧
      Alike region (handle.create request caller answers first).2.1
        (handle.create request caller answers second).2.1 ∧
      (handle.create request caller answers second).2.2 =
        (handle.create request caller answers first).2.2 := by
  have page : second.page = first.page := by rw [alike.rest]
  have context : request.context.getD (second.contextAt (second.current caller)) =
      request.context.getD (first.contextAt (first.current caller)) := by
    cases given : request.context with
    | some base => rw [Option.getD_some, Option.getD_some]
    | none =>
      rw [Option.getD_none, Option.getD_none, ← alike.current]
      exact contextAt_congr fun i low => alike.bytes _ (outside given i low)
  unfold Handle.create
  rw [page, context]
  split
  · exact ⟨rfl, alike, rfl⟩
  · dsimp only
    split
    · split
      · exact alike.adopt ..
      · exact alike.replace ..
    · exact alike.replace ..

end Alike

/-! Steps of others -/

def Goes {α : Type} (region : Region) : Option (α × Machine) → Option (α × Machine) → Prop :=
  Option.Rel fun one other => other.1 = one.1 ∧ Alike region one.2 other.2

variable {other : Region} {estate : Estate} {heap : HeapAnswers} {caller : Caller}

theorem Alike.settle (alike : Alike region first second) (furnished : Furnished other second)
    (serves : Serves other estate second)
    (apart : ∀ address, other.Lends address → ¬region.Lends address) {target : Option Nat}
    {oldSize : Nat} (newSize : Nat) (names : estate.Names target oldSize) :
    Alike region
      (first.settleArena other.block ((second.arenas other.block).resize target oldSize newSize))
      (second.settleArena other.block ((second.arenas other.block).resize target oldSize newSize)) := by
  unfold Machine.settleArena
  cases moved : ((second.arenas other.block).resize target oldSize newSize).move with
  | none => exact alike.place other.block _
  | some move =>
    refine (alike.place other.block _).write move.target move.length _ _ ?_
    intro i low _
    by_cases frees : newSize = 0
    · simp [Arena.resize, frees] at moved
    · cases target with
      | none => simp [Arena.resize, frees] at moved
      | some address =>
        simp only [Arena.resize, if_neg frees] at moved
        obtain rfl := Arena.realloc_move moved
        have covers : estate.Covers address oldSize :=
          ⟨⟨address, oldSize⟩, names address rfl, Nat.le_refl _, Nat.le_refl _⟩
        apply alike.bytes
        apply apart
        exact serves.lends furnished covers (Nat.le_add_right _ _) (Nat.add_lt_add_left low _)

theorem Alike.fillUp (alike : Alike region first second) (different : other.block ≠ region.block)
    (size : Nat) :
    (second.fillUp (.arena other.block) size).1 = (first.fillUp (.arena other.block) size).1 ∧
      Alike region (first.fillUp (.arena other.block) size).2
        (second.fillUp (.arena other.block) size).2 := by
  have same := alike.arenas other.block different
  unfold Machine.fillUp
  dsimp only [Allocator.arena]
  rw [same]
  refine ⟨rfl, (alike.place other.block _).write _ _ _ _ ?_⟩
  intro i low outside
  split
  · rfl
  · exact alike.bytes _ outside

/-- A step of another tidy function that does not look at what is lent does the same in both. -/
theorem runStep_alike {rest : Routine} (alike : Alike region first second)
    (furnished : Furnished other second) (tidy : rest.Tidy estate)
    (serves : Serves other estate second) (real : other.block ≠ 0)
    (different : other.block ≠ region.block)
    (apart : ∀ address, other.Lends address → ¬region.Lends address)
    (ignores : ∀ start length next, rest = .read start length next →
      ∀ i, i < length → ¬region.Lends (start + i)) :
    Goes region (first.runStep caller heap rest) (second.runStep caller heap rest) := by
  have same := alike.arenas other.block different
  cases rest with
  | done result => exact .none
  | setCurrent context next => exact tidy.elim
  | current next =>
    refine .some ⟨?_, alike⟩
    exact congrArg next (alike.current caller)
  | resize allocator target oldSize newSize next =>
    obtain ⟨asked, names, -⟩ := tidy
    obtain rfl := serves.allocators allocator asked
    simp only [Machine.runStep, resize_arena real]
    rw [← same]
    exact .some ⟨rfl, alike.settle furnished serves apart newSize names⟩
  | fillUp allocator size next =>
    obtain ⟨asked, -⟩ := tidy
    obtain rfl := serves.allocators allocator asked
    obtain ⟨counts, filled⟩ := alike.fillUp different size
    exact .some ⟨congrArg next counts, filled⟩
  | read start length next =>
    refine .some ⟨?_, alike⟩
    exact congrArg next (alike.read (ignores start length next rfl))
  | write start length bytes next =>
    exact .some ⟨rfl, alike.write start length bytes bytes fun _ _ _ => rfl⟩
  | share act next =>
    have shared : second.shared = first.shared := by rw [alike.rest]
    simp only [Machine.runStep, shared]
    cases act first.shared with
    | none => exact .none
    | some after => exact .some ⟨rfl, alike.oblivious (Machine.setShared_oblivious after)⟩

theorem step_alike {thread : RuntimeThread} (alike : Alike region first second)
    (furnished : Furnished other second)
    (serves : ∀ rest, thread.stage = .running rest → ∃ estate, rest.Tidy estate ∧
      Serves other estate second)
    (real : other.block ≠ 0) (different : other.block ≠ region.block)
    (apart : ∀ address, other.Lends address → ¬region.Lends address)
    (ignores : ∀ start length next, thread.stage = .running (.read start length next) →
      ∀ i, i < length → ¬region.Lends (start + i)) :
    Goes region (thread.step heap first) (thread.step heap second) := by
  rcases thread with ⟨own, caller, now⟩
  have blocks : second.blocks = first.blocks := by rw [alike.rest]
  have updated (change : ControlBlock → ControlBlock) (stage : Option Stage) :
      Goes region (some (stage, first.updateBlock own.block change))
        (some (stage, second.updateBlock own.block change)) :=
    .some ⟨rfl, alike.oblivious (Machine.updateBlock_oblivious own.block change)⟩
  cases now with
  | announcing =>
    simp only [RuntimeThread.step, blocks]
    exact updated _ _
  | running rest =>
    obtain ⟨estate, tidy, serves⟩ := serves rest rfl
    have goes := @runStep_alike region first second other estate heap caller rest alike furnished
      tidy serves real different apart fun start length next same =>
        ignores start length next (congrArg Stage.running same)
    cases rest with
    | done result => exact .some ⟨rfl, alike⟩
    | _ =>
      simp only [RuntimeThread.step]
      generalize Machine.runStep caller heap _ first = one at goes ⊢
      generalize Machine.runStep caller heap _ second = both at goes ⊢
      cases goes with
      | none => exact .none
      | some same =>
        exact .some ⟨congrArg (fun rest => some (Stage.running rest)) same.1, same.2⟩
  | _ => exact updated _ _

/-! Steps of the function of the region itself -/

variable {rest next : Routine} {between after : Machine} {thread : RuntimeThread}
  {stage : Option Stage}

theorem step_running (running : thread.stage = .running rest) (more : ∀ result, rest ≠ .done result)
    (machine : Machine) :
    thread.step heap machine = (machine.runStep thread.caller heap rest).map fun (rest, changed) =>
      (some (.running rest), changed) := by
  rcases thread with ⟨own, caller, now⟩
  obtain rfl : now = .running rest := running
  cases rest with
  | done result => exact absurd rfl (more result)
  | _ => rfl

/-- A step of a tidy function that changes nothing of what threads share is one on arenas and bytes. -/
theorem runStep_rest (stepped : second.runStep caller heap rest = some (next, after))
    (tidy : rest.Tidy estate) (serves : Serves other estate second) (real : other.block ≠ 0)
    (silent : ∀ act next shared, rest = .share act next → act second.shared = some shared →
      shared = second.shared) :
    after = { second with arenas := after.arenas, memory := after.memory } := by
  cases rest with
  | done result => cases stepped
  | setCurrent context next => exact tidy.elim
  | resize allocator target oldSize newSize next =>
    obtain ⟨asked, -, -⟩ := tidy
    obtain rfl := serves.allocators allocator asked
    simp only [Machine.runStep, resize_arena real] at stepped
    cases stepped
    rfl
  | fillUp allocator size next =>
    obtain ⟨asked, -⟩ := tidy
    obtain rfl := serves.allocators allocator asked
    cases stepped
    rfl
  | share act next =>
    obtain ⟨shared, acted, same⟩ := Option.map_eq_some_iff.mp stepped
    cases same
    rw [silent act next shared rfl acted]
  | _ =>
    cases stepped
    rfl

theorem Alike.inside (alike : Alike region first second) (inside : Inside region second after)
    (rest : after = { second with arenas := after.arenas, memory := after.memory }) :
    Alike region first after := by
  refine ⟨?_, ?_, ?_⟩
  · have before := alike.rest
    rw [rest, before]
  · intro place elsewhere
    rw [inside.arenas place elsewhere, alike.arenas place elsewhere]
  · intro address outside
    rw [inside.bytes address outside, alike.bytes address outside]

end

end ArenaThreads
