import ArenaThreads.Proofs.Process.LifecycleTable
/-!
Creates that fail. There are four reasons for it, all found before the handle's memory is touched, so
a create that fails leaves everything as it was but the calls it has made and the log. A create that
comes to prepare memory succeeds.
-/

namespace ArenaThreads

inductive NoMemory (page : Nat) (sizing : Sizing) (answers : MemoryAnswers) : OsError → Prop
  | tooLong (long : wordLimit ≤ page + sizing.stack + sizing.storage) :
    NoMemory page sizing answers .outOfMemory
  | unmapped {error : OsError} (short : page + sizing.stack + sizing.storage < wordLimit)
    (failed : answers.map (page + sizing.stack + sizing.storage) = .error error) :
    NoMemory page sizing answers error
  | unguarded {error : OsError} {base : Nat}
    (short : page + sizing.stack + sizing.storage < wordLimit)
    (mapped : answers.map (page + sizing.stack + sizing.storage) = .ok base)
    (failed : answers.protect = some error) : NoMemory page sizing answers error

def Handle.Unfit (sizing : Sizing) (handle : Handle) : Prop :=
  ∀ memory, handle.memory = some memory → memory.region.fits sizing = false

inductive CreateFailure (request : CreateRequest) (answers : MemoryAnswers) (handle : Handle)
    (machine : Machine) : Error → Prop
  | busy (live : handle.isLive = true) : CreateFailure request answers handle machine .busy
  | noMemory {error : OsError} (idle : handle.isLive = false)
    (unfit : handle.Unfit (request.sizing.rounded machine.page))
    (nothing : NoMemory machine.page (request.sizing.rounded machine.page) answers error) :
    CreateFailure request answers handle machine (.outOfMemory error)

/-- A create comes to prepare this memory when the process is in this state: memory that is used
again, or new memory, after the handle has given back what it had. -/
inductive Prepares (request : CreateRequest) (answers : MemoryAnswers) (handle : Handle)
    (machine : Machine) : Bool → ThreadMemory → Machine → Prop
  | reused {memory : ThreadMemory} (idle : handle.isLive = false)
    (has : handle.memory = some memory)
    (fits : memory.region.fits (request.sizing.rounded machine.page) = true) :
    Prepares request answers handle machine true memory machine
  | fresh {memory : ThreadMemory} {mapped : Machine} (idle : handle.isLive = false)
    (nothing : handle.memory = none)
    (done : ThreadMemory.allocate (request.sizing.rounded machine.page) answers machine =
      (.ok memory, mapped)) : Prepares request answers handle machine false memory mapped
  | replaced {previous memory : ThreadMemory} {mapped : Machine} (idle : handle.isLive = false)
    (had : handle.memory = some previous)
    (unfit : previous.region.fits (request.sizing.rounded machine.page) = false)
    (done : ThreadMemory.allocate (request.sizing.rounded machine.page) answers machine =
      (.ok memory, mapped)) :
    Prepares request answers handle machine false memory (previous.release mapped)

/-- What differs is only the log, the calls made, and bytes outside of all mapped memory. -/
structure Untouched (before after : Machine) : Prop where
  rest : after = { before with memory := after.memory, calls := after.calls, log := after.log }
  bytes : ∀ mapping ∈ before.mappings, ∀ address, mapping.base ≤ address →
    address < mapping.base + mapping.length → after.memory address = before.memory address

section

variable {machine after : Machine} {handle : Handle} {request : CreateRequest} {caller : Caller}
  {answers : MemoryAnswers} {sizing : Sizing} {error : OsError} {memory : ThreadMemory}
  {held : Holdings} {owner : Owner} {reused : Bool}

theorem Untouched.emit (untouched : Untouched machine after) (event : Event) :
    Untouched machine (after.emit event) := by
  constructor
  · rw [Machine.emit]
    conv => lhs; rw [untouched.rest]
  · exact untouched.bytes

theorem Untouched.view (untouched : Untouched machine after) (sound : Ownership held machine)
    (mine : held owner = handle.memory) : handle.view after = handle.view machine := by
  cases has : handle.memory with
  | none => exact Handle.view_of_none has
  | some memory =>
    rw [has] at mine
    have house := sound.housed mine
    apply Handle.view_eq has _ house.described house.placed
    · exact untouched.bytes memory.region.mapping house.mapped
    · rw [untouched.rest]
      exact ⟨rfl, rfl, rfl, rfl, rfl, rfl⟩

/-! Reserving memory -/

theorem Region.length?_of_short (short : machine.page + sizing.stack + sizing.storage < wordLimit) :
    Region.length? machine.page sizing = some (machine.page + sizing.stack + sizing.storage) := by
  rw [Region.length?, if_pos]
  constructor <;> omega

theorem Region.length?_of_long (long : wordLimit ≤ machine.page + sizing.stack + sizing.storage) :
    Region.length? machine.page sizing = none := by
  rw [Region.length?, if_neg]
  omega

theorem guard_failure_untouched {base length : Nat} (error : OsError)
    (free : Mapping.Free ⟨base, length⟩ machine) :
    Untouched machine
      (((machine.map length (.ok base)).2.protect base machine.page (some error)).unmap
        ⟨base, length⟩) := by
  constructor
  · simp [Machine.map, Machine.protect, Machine.unmap, Machine.called]
  · intro mapping mapped address low high
    have apart := free.apart mapping mapped
    simp only [Mapping.Apart] at apart
    exact Memory.write_outside _ _ (by omega)

theorem NoMemory.allocate (nothing : NoMemory machine.page sizing answers error)
    (lawful : answers.Lawful machine) :
    ∃ asked, ThreadMemory.allocate sizing answers machine = (.error error, asked) ∧
      Untouched machine asked := by
  cases nothing with
  | tooLong long =>
    refine ⟨machine, ?_, rfl, fun _ _ _ _ _ => rfl⟩
    rw [ThreadMemory.allocate, Machine.reserveRegion, Region.length?_of_long long]
  | unmapped short failed =>
    have asked : Untouched machine (machine.called
        (.map (machine.page + sizing.stack + sizing.storage) (.error error))) :=
      ⟨rfl, fun _ _ _ _ _ => rfl⟩
    refine ⟨_, ?_, asked⟩
    rw [ThreadMemory.allocate, Machine.reserveRegion, Region.length?_of_short short]
    dsimp only
    rw [failed]
    rfl
  | unguarded short mapped failed =>
    refine ⟨_, ?_, guard_failure_untouched error (lawful _ _ mapped)⟩
    rw [ThreadMemory.allocate, Machine.reserveRegion, Region.length?_of_short short]
    dsimp only
    rw [mapped, failed]
    rfl

theorem allocate_total (sizing : Sizing) (answers : MemoryAnswers) (machine : Machine) :
    (∃ error, NoMemory machine.page sizing answers error) ∨
      ∃ memory mapped, ThreadMemory.allocate sizing answers machine = (.ok memory, mapped) := by
  by_cases long : wordLimit ≤ machine.page + sizing.stack + sizing.storage
  · exact Or.inl ⟨.outOfMemory, .tooLong long⟩
  · have short := Nat.not_le.mp long
    cases mapped : answers.map (machine.page + sizing.stack + sizing.storage) with
    | error error => exact Or.inl ⟨error, .unmapped short mapped⟩
    | ok base =>
      cases failed : answers.protect with
      | some error => exact Or.inl ⟨error, .unguarded short mapped failed⟩
      | none =>
        apply Or.inr
        rw [ThreadMemory.allocate, Machine.reserveRegion, Region.length?_of_short short]
        dsimp only
        rw [mapped, failed]
        exact ⟨_, _, rfl⟩

/-! Creating -/

theorem Handle.create_live (live : handle.isLive = true) :
    handle.create request caller answers machine = (handle, machine, .error .busy) := by
  rw [Handle.create, if_pos live]

theorem Handle.create_unfit (idle : handle.isLive = false)
    (unfit : handle.Unfit (request.sizing.rounded machine.page)) :
    handle.create request caller answers machine =
      handle.replace (request.assignment caller machine) (request.sizing.rounded machine.page)
        answers machine := by
  rw [Handle.create, if_neg (by simp [idle])]
  cases had : handle.memory with
  | none => rfl
  | some memory =>
    simp only [unfit memory had]
    rfl

theorem CreateFailure.create {cause : Error}
    (failure : CreateFailure request answers handle machine cause) (caller : Caller)
    (lawful : answers.Lawful machine) :
    ∃ after, handle.create request caller answers machine = (handle, after, .error cause) ∧
      Untouched machine after := by
  cases failure with
  | busy live => exact ⟨machine, Handle.create_live live, rfl, fun _ _ _ _ _ => rfl⟩
  | @noMemory error idle unfit nothing =>
    obtain ⟨asked, failed, untouched⟩ := nothing.allocate lawful
    refine ⟨_, ?_, untouched.emit (.threadFailed "create" error.message)⟩
    rw [Handle.create_unfit idle unfit, Handle.replace, failed]

theorem Prepares.create {between : Machine}
    (prepares : Prepares request answers handle machine reused memory between) (caller : Caller) :
    handle.create request caller answers machine =
      Handle.adopt (request.assignment caller machine) (request.sizing.rounded machine.page) reused
        memory between := by
  cases prepares with
  | reused idle has fits =>
    rw [Handle.create, if_neg (by simp [idle]), has]
    dsimp only
    rw [if_pos fits]
    rfl
  | fresh idle nothing done =>
    rw [Handle.create_unfit idle (by simp [Handle.Unfit, nothing]), Handle.replace, done, nothing]
  | replaced idle had unfit done =>
    rw [Handle.create_unfit idle (by simp [Handle.Unfit, had, unfit]), Handle.replace, done, had]

theorem create_total (request : CreateRequest) (answers : MemoryAnswers) (handle : Handle)
    (machine : Machine) :
    (∃ cause, CreateFailure request answers handle machine cause) ∨
      ∃ reused memory between, Prepares request answers handle machine reused memory between := by
  cases live : handle.isLive with
  | true => exact Or.inl ⟨.busy, .busy live⟩
  | false =>
    have reserved := allocate_total (request.sizing.rounded machine.page) answers machine
    cases had : handle.memory with
    | none =>
      rcases reserved with ⟨error, nothing⟩ | ⟨memory, mapped, done⟩
      · exact Or.inl ⟨_, .noMemory live (by simp [Handle.Unfit, had]) nothing⟩
      · exact Or.inr ⟨_, _, _, .fresh live had done⟩
    | some previous =>
      cases fits : previous.region.fits (request.sizing.rounded machine.page) with
      | true => exact Or.inr ⟨_, _, _, .reused live had fits⟩
      | false =>
        rcases reserved with ⟨error, nothing⟩ | ⟨memory, mapped, done⟩
        · exact Or.inl ⟨_, .noMemory live (by simp [Handle.Unfit, had, fits]) nothing⟩
        · exact Or.inr ⟨_, _, _, .replaced live had fits done⟩

theorem roomy_of_fits (paged : Pages.Real machine.page) (placed : memory.region.Placed)
    (fits : memory.region.fits (request.sizing.rounded machine.page) = true) :
    memory.roomy = true := by
  by_contra cramped
  have tight := storage_of_tight placed (Bool.eq_false_iff.mpr cramped)
  have storage : memory.region.storage = (request.sizing.rounded machine.page).storage := by
    simp only [Region.fits, Bool.and_eq_true, decide_eq_true_eq] at fits
    exact fits.2
  have whole : Context.size + Arena.alignment ≤ (request.sizing.rounded machine.page).storage :=
    paged.roomy (by omega)
  omega

theorem Prepares.roomy {between : Machine}
    (prepares : Prepares request answers handle machine reused memory between)
    (sound : Ownership held machine) (mine : held owner = handle.memory)
    (paged : Pages.Real machine.page) (lawful : answers.Lawful machine) : memory.roomy = true := by
  have reserved {memory : ThreadMemory} {mapped : Machine}
      (done : ThreadMemory.allocate (request.sizing.rounded machine.page) answers machine =
        (.ok memory, mapped)) : memory.roomy = true := by
    rcases allocate_outcome request.sizing sound lawful with
      ⟨error, asked, failed, -⟩ | ⟨region, after, had, -, vacant, fits⟩
    · rw [failed] at done
      cases done
    · rw [had] at done
      cases done
      exact roomy_of_fits paged vacant.placed fits
  cases prepares with
  | reused idle has fits => exact roomy_of_fits paged (sound.housed (mine.trans has)).placed fits
  | fresh idle nothing done => exact reserved done
  | replaced idle had unfit done => exact reserved done

theorem adopt_roomy {assignment : Assignment} (room : memory.roomy = true) (machine : Machine) :
    (Handle.adopt assignment sizing reused memory machine).2.2 = .ok () := by
  rw [Handle.adopt, ThreadMemory.prepare_roomy room]

end

structure CreateFailsCleanly (request : CreateRequest) (caller : Caller) (answers : MemoryAnswers)
    (handle : Handle) (machine : Machine) : Prop where
  causes : ∀ cause, (handle.create request caller answers machine).2.2 = .error cause ↔
    CreateFailure request answers handle machine cause
  same : ∀ cause, (handle.create request caller answers machine).2.2 = .error cause →
    (handle.create request caller answers machine).1 = handle
  untouched : ∀ cause, (handle.create request caller answers machine).2.2 = .error cause →
    Untouched machine (handle.create request caller answers machine).2.1
  view : ∀ cause, (handle.create request caller answers machine).2.2 = .error cause →
    handle.view (handle.create request caller answers machine).2.1 = handle.view machine
  prepared : ∀ reused memory between,
    Prepares request answers handle machine reused memory between →
      handle.create request caller answers machine =
          Handle.adopt (request.assignment caller machine) (request.sizing.rounded machine.page)
            reused memory between ∧
        ∃ ready after, memory.prepare (request.assignment caller machine) between =
          (.ok ready, after)

/-- However a process has come to where it is: a create fails for one of four reasons, and then
nothing that anybody can see has changed. The failure after memory has been prepared, which would
empty the handle, never comes. -/
theorem failed_create_clean {system : System} {moves : List Move} {request : CreateRequest}
    {answers : MemoryAnswers} (caller : Caller) (name : Nat) (fresh : system.Fresh)
    (paged : Pages.Real system.machine.page) (lawful : System.LawfulRun moves system)
    (answered : answers.Lawful (system.run moves).machine) :
    CreateFailsCleanly request caller answers ((system.run moves).handles name)
      (system.run moves).machine := by
  have sound := (run_sound (.fresh fresh) lawful).ownership
  have pages := run_paged (.fresh fresh) paged lawful
  have mine : (system.run moves).held (.handle name) = ((system.run moves).handles name).memory := rfl
  generalize (system.run moves).machine = machine at sound pages answered ⊢
  generalize (system.run moves).handles name = handle at mine ⊢
  generalize (system.run moves).held = held at sound mine
  -- Storage of whole pages always has room for the context copy.
  have prepared {reused : Bool} {memory : ThreadMemory} {between : Machine}
      (prepares : Prepares request answers handle machine reused memory between) :
      memory.roomy = true := prepares.roomy sound mine pages answered
  have failed {cause : Error}
      (result : (handle.create request caller answers machine).2.2 = .error cause) :
      CreateFailure request answers handle machine cause := by
    rcases create_total request answers handle machine with
      ⟨other, failure⟩ | ⟨reused, memory, between, prepares⟩
    · obtain ⟨after, created, -⟩ := failure.create caller answered
      rw [created] at result
      cases result
      exact failure
    · rw [prepares.create, adopt_roomy (prepared prepares)] at result
      cases result
  have left {cause : Error}
      (result : (handle.create request caller answers machine).2.2 = .error cause) :
      ∃ after, handle.create request caller answers machine = (handle, after, .error cause) ∧
        Untouched machine after := (failed result).create caller answered
  constructor
  · intro cause
    constructor
    · exact failed
    · intro failure
      obtain ⟨after, created, -⟩ := failure.create caller answered
      rw [created]
  · intro cause result
    obtain ⟨after, created, -⟩ := left result
    rw [created]
  · intro cause result
    obtain ⟨after, created, untouched⟩ := left result
    rw [created]
    exact untouched
  · intro cause result
    obtain ⟨after, created, untouched⟩ := left result
    rw [created]
    exact untouched.view sound mine
  · intro reused memory between prepares
    exact ⟨prepares.create caller, _, _, ThreadMemory.prepare_roomy (prepared prepares)⟩

theorem failed_create_clean_unguarded :
    let system := System.run [.createAt 0 65536 7] {}
    let request : CreateRequest := ⟨.identity, 9, some .standard, ⟨2 ^ 20, 2 ^ 20⟩⟩
    let answers : MemoryAnswers := { MemoryAnswers.upTo (2 ^ 40) (2 ^ 30) with
      protect := some .outOfMemory }
    answers.Lawful system.machine ∧
      CreateFailure request answers (system.handles 0) system.machine
        (.outOfMemory .outOfMemory) ∧
      CreateFailsCleanly request ⟨0, 0⟩ answers (system.handles 0) system.machine := by
  intro system request answers
  have fresh : System.Fresh {} := ⟨fun _ => rfl, rfl, rfl, fun _ => rfl, rfl, rfl⟩
  have first : (MemoryAnswers.upTo 65536 (2 ^ 30)).Lawful {} :=
    MemoryAnswers.upTo_lawful (by decide) (by decide) (by simp)
  have mapped : system.machine.mappings = [⟨65536, 331776⟩] := rfl
  have second : (MemoryAnswers.upTo (2 ^ 40) (2 ^ 30)).Lawful system.machine := by
    apply MemoryAnswers.upTo_lawful (by decide) (by decide)
    rw [mapped]
    simp [Mapping.Apart]
  have lawful : System.LawfulRun [.createAt 0 65536 7] {} := ⟨first, trivial⟩
  have cleanly : CreateFailsCleanly request ⟨0, 0⟩ answers (system.handles 0) system.machine :=
    failed_create_clean ⟨0, 0⟩ 0 fresh ⟨12, by decide, by decide, rfl⟩ lawful second
  refine ⟨second, ?_, cleanly⟩
  apply (cleanly.causes _).mp
  decide

end ArenaThreads
