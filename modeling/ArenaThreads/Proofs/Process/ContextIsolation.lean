import ArenaThreads.Proofs.Process.Turns
/-!
The contexts of threads are apart: in whatever order threads and handles take turns, what is current
on a thread is what the thread itself has made so last, and only its own calls change it.
-/

namespace ArenaThreads

/-! Where a context is kept -/

def Party.place? : Party → Option Nat
  | .host _ => none
  | .runtime block => some block

def Party.reads (machine : Machine) : Party → Nat
  | .host thread =>
    if machine.threadLocal thread.home = 0 then thread.home else machine.threadLocal thread.home
  | .runtime block => (machine.blocks block).current

def Party.puts (context : Nat) (machine : Machine) : Party → Machine
  | .host thread => { machine with threadLocal := machine.threadLocal.set thread.home context }
  | .runtime block => machine.setSlot block context

/-- A caller that comes upon the place where a thread's context is kept. -/
structure Party.Finds (caller : Caller) (machine : Machine) (party : Party) : Prop where
  slot : machine.slot caller = party.place?
  home : ∀ thread, party = .host thread → caller.home = thread.home
  real : ∀ block, party = .runtime block → (machine.blocks block).current ≠ 0

section

variable {machine : Machine} {caller : Caller} {party further : Party} {context : Nat}

theorem Party.Finds.current (finds : party.Finds caller machine) :
    machine.current caller = party.reads machine := by
  cases party with
  | host thread =>
    rw [current_home finds.slot, Machine.threadLocalContext, finds.home thread rfl]
    rfl
  | runtime block => exact current_slot finds.slot (finds.real block rfl)

theorem Party.Finds.setCurrent (finds : party.Finds caller machine) :
    machine.setCurrent caller context = (party.reads machine, party.puts context machine) := by
  cases party with
  | host thread =>
    rw [setCurrent_home context finds.slot, finds.current, Machine.setThreadLocal,
      finds.home thread rfl]
    rfl
  | runtime block => exact setCurrent_slot context finds.slot (finds.real block rfl)

theorem Party.slot_puts : (party.puts context machine).slot caller = machine.slot caller := by
  cases party with
  | host thread => rfl
  | runtime block =>
    have same {α : Type} (field : ControlBlock → α)
        (apart : ∀ contents, field { contents with current := context } = field contents)
        (other : Nat) : field ((machine.setSlot block context).blocks other) =
          field (machine.blocks other) := by
      by_cases here : other = block
      · subst here
        simp only [Machine.setSlot, Cells.set_same, apart]
      · simp only [Machine.setSlot, Cells.set_other _ _ here]
    exact Registry.lookup_congr (same ControlBlock.next fun _ => rfl)
      (same (ControlBlock.holds caller.stack) fun _ => rfl)

theorem Party.reads_puts (real : context ≠ 0) : party.reads (party.puts context machine) = context := by
  cases party with
  | host thread =>
    simp only [reads, puts, Cells.set_same]
    exact if_neg real
  | runtime block => simp only [reads, puts, Machine.setSlot, Cells.set_same]

def Party.Differs (party further : Party) : Prop :=
  party ≠ further ∧ ∀ thread other, party = .host thread → further = .host other →
    thread.home ≠ other.home

theorem Party.reads_puts_other (differs : party.Differs further) :
    further.reads (party.puts context machine) = further.reads machine := by
  obtain ⟨different, apart⟩ := differs
  cases party with
  | host thread =>
    cases further with
    | host other =>
      simp only [reads, puts, Cells.set_other _ _ (apart thread other rfl rfl).symm]
    | runtime block => rfl
  | runtime block =>
    cases further with
    | host other => rfl
    | runtime place =>
      have elsewhere : place ≠ block := fun same => different (by rw [same])
      simp only [reads, puts, Machine.setSlot, Cells.set_other _ _ elsewhere]

end

/-! Who runs where -/

def Party.Runs (hosts : List HostThread) (caller : Caller) (system : System) : Party → Prop
  | .host thread => thread ∈ hosts ∧ thread.Calls caller
  | .runtime block => ∃ thread, system.threadAt? block = some thread ∧ thread.stage ≠ .entering ∧
      thread.region.stackLow ≤ caller.stack ∧ caller.stack < block

section

variable {system : System} {hosts : List HostThread} {latest : Party → Option Nat}
  {party further : Party} {caller other : Caller} {context block : Nat} {turn : Turn}
  {memory : ThreadMemory} {thread : RuntimeThread} {address : Nat}

theorem Separate.finds (separate : Separate hosts latest system)
    (runs : party.Runs hosts caller system) : party.Finds caller system.machine := by
  cases party with
  | host thread =>
    obtain ⟨known, calls⟩ := runs
    refine ⟨host_slot separate.sound separate.clear known calls, ?_, nofun⟩
    rintro other same
    cases same
    exact calls.1
  | runtime block =>
    obtain ⟨thread, found, entered, low, high⟩ := runs
    refine ⟨runtime_slot separate.sound found low high, nofun, ?_⟩
    rintro place same
    cases same
    exact separate.current_real found entered

theorem HostThreads.differs (homes : HostThreads hosts) (different : party ≠ further)
    (runs : party.Runs hosts caller system) (others : further.Runs hosts other system) :
    party.Differs further := by
  refine ⟨different, ?_⟩
  rintro thread another rfl rfl
  exact homes.apart thread runs.1 another others.1 fun same => different (by rw [same])

theorem Separate.current (separate : Separate hosts latest system)
    (runs : party.Runs hosts caller system) :
    system.machine.current caller = (latest party).getD (party.initial system.machine) := by
  rw [(separate.finds runs).current]
  cases party with
  | host thread =>
    rw [Party.reads, separate.host thread runs.1]
    cases made : latest (.host thread) with
    | none => rfl
    | some context => exact if_neg (separate.real made)
  | runtime block =>
    obtain ⟨thread, found, entered, -, -⟩ := runs
    exact separate.runtime found entered

theorem Party.Finds.puts {machine : Machine} (finds : party.Finds caller machine)
    (real : context ≠ 0) : party.Finds caller (further.puts context machine) := by
  refine ⟨Party.slot_puts.trans finds.slot, finds.home, ?_⟩
  rintro block rfl
  cases further with
  | host thread => exact finds.real block rfl
  | runtime place =>
    by_cases here : block = place
    · subst here
      simp only [Party.puts, Machine.setSlot, Cells.set_same]
      exact real
    · simp only [Party.puts, Machine.setSlot, Cells.set_other _ _ here]
      exact finds.real block rfl

/-! Turns of others -/

theorem Separate.spares (separate : Separate hosts latest system) (homes : HostThreads hosts)
    (lawful : turn.Lawful hosts system) (other : turn.party? ≠ some party)
    (runs : party.Runs hosts caller system) :
    party.Runs hosts caller (system.turn turn) ∧
      (system.turn turn).machine.current caller = system.machine.current caller := by
  have next := separate.takes homes lawful
  have latter : turn.latest party system (latest party) = latest party := Turn.latest_other other
  cases party with
  | host thread =>
    have still : (Party.host thread).Runs hosts caller (system.turn turn) := runs
    refine ⟨still, ?_⟩
    rw [next.current still, separate.current runs, latter]
    rfl
  | runtime block =>
    obtain ⟨thread, found, entered, low, high⟩ := runs
    have stays : (system.turn turn).threadAt? block = some thread := by
      cases turn with
      | host host address call => exact found
      | move step =>
        have control (answers : HeapAnswers) : step ≠ .thread block answers := by
          rintro rfl
          exact other rfl
        rcases (step_effect separate.sound lawful.1).threadAt separate.sound control with
          same | ⟨absent, -⟩
        · exact same.trans found
        · cases found.symm.trans absent
    have still : (Party.runtime block).Runs hosts caller (system.turn turn) :=
      ⟨thread, stays, entered, low, high⟩
    have before := (runtime_describes separate.sound found).1.context
    have after := (runtime_describes next.sound stays).1.context
    have runs : (Party.runtime block).Runs hosts caller system :=
      ⟨thread, found, entered, low, high⟩
    refine ⟨still, ?_⟩
    rw [next.current still, separate.current runs, latter, Party.initial, Party.initial, before,
      after]

def Turn.Reaches (system : System) (address : Nat) : Turn → Prop
  | .move step => step.Writes system address
  | .host .. => False

theorem turn_bytes (outside : ¬turn.Reaches system address) :
    (system.turn turn).machine.memory address = system.machine.memory address := by
  cases turn with
  | host host place call =>
    cases call with
    | setCurrent context =>
      simp only [System.turn, ContextCall.perform]
      rw [setCurrent_memory]
    | _ => rfl
  | move step => exact step_bytes outside

theorem Sound.sheltered (sound : Sound system) {move : Move} (lawful : move.Lawful system)
    (control : ∀ block answers, move ≠ .thread block answers)
    (found : system.threadAt? block = some thread)
    (inside : thread.region.mapping.Holds address) : ¬move.Writes system address := by
  obtain ⟨owner, memory, mine, rfl⟩ := sound.owned found
  have crewed := sound.crewed mine
  have house := sound.ownership.housed mine
  have word := sound.word mine found
  rw [found] at crewed
  cases crewed with
  | present region stack real shows =>
    rw [region] at inside
    intro writes
    cases move with
    | thread place answers => exact control place answers rfl
    | call name call =>
      cases call with
      | create request caller answers =>
        obtain ⟨idle, ⟨mapping, answered, holds⟩ | ⟨further, has, stores⟩⟩ := writes
        · have apart := (lawful mapping.length mapping.base answered).apart _ house.mapped
          simp only [Mapping.Apart, Mapping.Holds] at apart inside holds
          omega
        · obtain ⟨state, represents⟩ := sound.handles name
          have theirs : system.held (.handle name) = some further := has
          have different : owner ≠ .handle name := by
            rintro rfl
            cases mine.symm.trans theirs
            exact word (represents.word idle has)
          have apart := sound.ownership.apart different mine theirs
          have filled := Region.storage_inside (sound.ownership.housed theirs).placed
          simp only [Mapping.Apart, Mapping.Holds, ThreadMemory.Stores, Region.mapping,
            Region.storageStart] at apart inside stores filled
          omega
      | _ => exact writes
    | _ => exact writes

theorem Separate.withdrawn (separate : Separate hosts latest system) {name : Nat}
    (has : (system.handles name).memory = some memory)
    (absent : system.threadAt? memory.block = none) (runs : party.Runs hosts caller system) :
    party.Finds caller (memory.withdraw system.machine) ∧
      party.reads (memory.withdraw system.machine) = party.reads system.machine := by
  have mine : system.held (.handle name) = some memory := has
  have moved := (withdraw_rehouses separate.sound.ownership (.mine mine)).1
  have threadLocal : (memory.withdraw system.machine).threadLocal = system.machine.threadLocal :=
    (@withdraw_confined (fun _ => False) system.machine memory).threadLocal
  have finds := separate.finds runs
  cases party with
  | host thread =>
    obtain ⟨known, calls⟩ := runs
    -- One control block less is in the registry, and none of the others is on this stack.
    have slot : (memory.withdraw system.machine).slot caller = none := by
      apply moved.sound.misses _ calls
      intro owner further theirs
      obtain ⟨-, same⟩ | ⟨-, theirs⟩ := held_set.mp theirs
      · cases same
      · exact separate.clear thread known owner further theirs
    refine ⟨⟨slot, finds.home, nofun⟩, ?_⟩
    rw [Party.reads, Party.reads, threadLocal]
  | runtime block =>
    obtain ⟨thread, found, entered, low, high⟩ := runs
    obtain ⟨owner, further, theirs, rfl⟩ := separate.sound.owned found
    have crewed := separate.sound.crewed theirs
    rw [found] at crewed
    cases crewed with
    | present region stack word shows =>
      rw [region] at low
      -- The thread runs in other memory, since nobody runs in what is withdrawn.
      have different : owner ≠ .handle name := by
        rintro rfl
        cases mine.symm.trans theirs
        cases absent.symm.trans found
      have kept : (system.held.set (.handle name) none) owner = some further :=
        held_set.mpr (Or.inr ⟨different, theirs⟩)
      have slot : (memory.withdraw system.machine).slot caller = some further.block :=
        moved.sound.finds kept low high
      have current : ((memory.withdraw system.machine).blocks further.block).current =
          (system.machine.blocks further.block).current := by
        have same := congrArg ControlBlock.current (moved.others different theirs).block
        exact same
      refine ⟨⟨slot, nofun, ?_⟩, current⟩
      intro place same
      rw [← Party.runtime.inj same, current]
      exact finds.real further.block rfl

theorem Separate.copied (separate : Separate hosts latest system)
    (found : system.threadAt? block = some thread) :
    (system.machine.blocks block).context =
        thread.region.storageStart + Arena.padding thread.region.storageStart ∧
      (system.machine.blocks block).context + Context.size ≤
        thread.region.storageStart + thread.region.storage := by
  have described := (runtime_describes separate.sound found).1
  obtain ⟨owner, memory, mine, rfl⟩ := separate.sound.owned found
  have crewed := separate.sound.crewed mine
  have bound := ThreadMemory.roomy_bound (separate.roomy owner memory mine)
  rw [found] at crewed
  cases crewed with
  | present region stack word shows =>
    refine ⟨described.context, ?_⟩
    rw [described.context, region]
    exact bound

theorem Separate.answered (separate : Separate hosts latest system) {next : Nat → Routine}
    {answers : HeapAnswers} (found : system.threadAt? block = some thread)
    (asks : thread.stage = .running (.current next) ∨
      ∃ context, thread.stage = .running (.setCurrent context next)) :
    (system.threadStep block answers).threadAt? block = some { thread with
      stage := .running (next ((latest (.runtime block)).getD
        (system.machine.blocks block).context)) } := by
  have entered : thread.stage ≠ .entering := by
    rcases asks with asks | ⟨context, asks⟩ <;> rw [asks] <;> nofun
  obtain ⟨low, high⟩ := runtime_stack separate.sound found
  have runs : (Party.runtime block).Runs hosts thread.caller system :=
    ⟨thread, found, entered, low, high⟩
  have finds := separate.finds runs
  have stepped : ∃ after, thread.step answers system.machine =
      some (some (.running (next (system.machine.current thread.caller))), after) := by
    rcases thread with ⟨region, caller, stage⟩
    rcases asks with asks | ⟨context, asks⟩
    · cases asks
      exact ⟨_, rfl⟩
    · cases asks
      refine ⟨(system.machine.setCurrent caller context).2, ?_⟩
      rw [finds.current]
      simp only [RuntimeThread.step, Machine.runStep, finds.setCurrent, Option.map_some]
  obtain ⟨reached, stepped⟩ := stepped
  rcases System.threadStep_cases block answers system with
    ⟨-, stuck⟩ | ⟨other, stage, after, there, further, same⟩
  · cases (stuck thread found).symm.trans stepped
  · cases found.symm.trans there
    cases stepped.symm.trans further
    rw [same, System.threadAt?_withStage_same, separate.current runs]
    exact congrArg (Option.map _) found

end

/-! Isolation -/

/-- What the calls of a thread come to, wherever on its stack it makes them. -/
structure OwnContext (hosts : List HostThread) (latest : Party → Option Nat) (system : System)
    (party : Party) (caller : Caller) : Prop where
  slot : system.machine.slot caller = party.place?
  current : system.machine.current caller = (latest party).getD (party.initial system.machine)
  previous : ∀ context,
    (system.machine.setCurrent caller context).1 = system.machine.current caller
  made : ∀ {context other}, context ≠ 0 → party.Runs hosts other system →
    (system.machine.setCurrent caller context).2.current other = context
  spares : ∀ {context} {further : Party} {other}, context ≠ 0 → further ≠ party →
    further.Runs hosts other system →
      (system.machine.setCurrent caller context).2.current other = system.machine.current other ∧
      (system.machine.setCurrent caller context).2.allocator other = system.machine.allocator other

/-- On a launched thread the context comes from the control block, never from thread-local memory, and
at first it is the copy at the beginning of the thread's own storage. -/
structure OwnBlock (system : System) (block : Nat) (caller : Caller) : Prop where
  real : (system.machine.blocks block).current ≠ 0
  current : system.machine.current caller = (system.machine.blocks block).current
  home : ∀ context,
    (system.machine.setCurrent caller context).2.threadLocal = system.machine.threadLocal
  copy : ∃ thread, system.threadAt? block = some thread ∧
    (system.machine.blocks block).context =
      thread.region.storageStart + Arena.padding thread.region.storageStart ∧
    (system.machine.blocks block).context + Context.size ≤
      thread.region.storageStart + thread.region.storage

structure Undistracted (hosts : List HostThread) (system : System) (turn : Turn) (party : Party)
    (caller : Caller) : Prop where
  runs : party.Runs hosts caller (system.turn turn)
  current : (system.turn turn).machine.current caller = system.machine.current caller
  allocator : (∀ i, i < Context.size → ¬turn.Reaches system (system.machine.current caller + i)) →
    (system.turn turn).machine.allocator caller = system.machine.allocator caller

/-- Contexts are apart, where each thread has made current last what `latest` says. -/
structure ContextsApart (hosts : List HostThread) (latest : Party → Option Nat) (system : System) :
    Prop where
  own : ∀ {party : Party} {caller}, party.Runs hosts caller system →
    OwnContext hosts latest system party caller
  block : ∀ {block caller}, (Party.runtime block).Runs hosts caller system →
    OwnBlock system block caller
  answered : ∀ {block thread next answers}, system.threadAt? block = some thread →
    (thread.stage = .running (.current next) ∨
      ∃ context, thread.stage = .running (.setCurrent context next)) →
    (system.threadStep block answers).threadAt? block = some { thread with
      stage := .running (next ((latest (.runtime block)).getD
        (system.machine.blocks block).context)) }
  others : ∀ {turn : Turn} {party : Party} {caller}, turn.Lawful hosts system → turn.party? ≠ some party →
    party.Runs hosts caller system → Undistracted hosts system turn party caller
  sheltered : ∀ {move : Move} {block thread address}, move.Lawful system →
    (∀ place answers, move ≠ .thread place answers) → system.threadAt? block = some thread →
    thread.region.mapping.Holds address → ¬move.Writes system address
  midst : ∀ {name memory} {party : Party} {caller}, (system.handles name).memory = some memory →
    system.threadAt? memory.block = none → party.Runs hosts caller system →
      (memory.withdraw system.machine).slot caller = system.machine.slot caller ∧
      (memory.withdraw system.machine).current caller = system.machine.current caller

section

variable {system : System} {hosts : List HostThread} {latest : Party → Option Nat}
  {party : Party} {caller : Caller} {block : Nat} {turn : Turn}

theorem Separate.ownContext (separate : Separate hosts latest system) (homes : HostThreads hosts)
    (runs : party.Runs hosts caller system) : OwnContext hosts latest system party caller := by
  have finds := separate.finds runs
  constructor
  · exact finds.slot
  · exact separate.current runs
  · intro context
    rw [finds.setCurrent, finds.current]
  · intro context other real here
    rw [finds.setCurrent, ((separate.finds here).puts real).current]
    exact Party.reads_puts real
  · intro context further other real different there
    have theirs := separate.finds there
    have current : (system.machine.setCurrent caller context).2.current other =
        system.machine.current other := by
      rw [finds.setCurrent, (theirs.puts real).current, theirs.current]
      exact Party.reads_puts_other (homes.differs different.symm runs there)
    refine ⟨current, ?_⟩
    rw [Machine.allocator, Machine.allocator, current, Machine.contextAt, setCurrent_memory]
    rfl

theorem Separate.ownBlock (separate : Separate hosts latest system)
    (runs : (Party.runtime block).Runs hosts caller system) : OwnBlock system block caller := by
  have finds := separate.finds runs
  constructor
  · exact finds.real block rfl
  · exact finds.current
  · intro context
    rw [finds.setCurrent]
    rfl
  · obtain ⟨thread, found, -⟩ := runs
    exact ⟨thread, found, separate.copied found⟩

theorem Separate.undistracted (separate : Separate hosts latest system) (homes : HostThreads hosts)
    (lawful : turn.Lawful hosts system) (other : turn.party? ≠ some party)
    (runs : party.Runs hosts caller system) : Undistracted hosts system turn party caller := by
  obtain ⟨still, current⟩ := separate.spares homes lawful other runs
  constructor
  · exact still
  · exact current
  · intro outside
    rw [Machine.allocator, Machine.allocator, current]
    apply congrArg Context.allocator
    apply contextAt_congr
    intro i inside
    exact turn_bytes (outside i inside)

theorem Separate.contextsApart (separate : Separate hosts latest system)
    (homes : HostThreads hosts) : ContextsApart hosts latest system := by
  constructor
  · exact separate.ownContext homes
  · exact separate.ownBlock
  · exact separate.answered
  · exact separate.undistracted homes
  · exact separate.sound.sheltered
  · intro name memory party caller has absent runs
    have finds := separate.finds runs
    obtain ⟨still, same⟩ := separate.withdrawn has absent runs
    constructor
    · rw [still.slot, finds.slot]
    · rw [still.current, finds.current, same]

end

/-- In every interleaving of the calls of any number of host threads and launched threads with calls
on handles, what is current on a thread is what it has made so last, and before that its initial
context; making another context current answers with it; and what is current on a thread is changed
by nothing but its own calls. -/
theorem contexts_isolated {hosts : List HostThread} {turns : List Turn} {system : System}
    (fresh : system.Fresh) (homes : HostThreads hosts)
    (unset : ∀ host ∈ hosts, system.machine.threadLocal host.home = 0)
    (lawful : System.LawfulTurns hosts turns system) :
    ContextsApart hosts (fun party => party.latest turns system none) (system.play turns) :=
  ((Separate.fresh fresh unset).play homes lawful).contextsApart homes

def ThreadFunction.swap : ThreadFunction := ⟨"swap", fun context => .setCurrent context .done⟩

theorem MemoryAnswers.upTo_maps {base bound : Nat} {mapping : Mapping}
    (maps : (upTo base bound).map mapping.length = .ok mapping.base) :
    mapping.base = base ∧ mapping.length ≤ bound := by
  by_cases short : mapping.length ≤ bound
  · have same : base = mapping.base := by simpa [upTo, short] using maps
    exact ⟨same.symm, short⟩
  · simp [upTo, short] at maps

theorem Move.setsReal {system : System} {block : Nat} {answers : HeapAnswers} {stage : Stage}
    (there : (system.threadAt? block).map RuntimeThread.stage = some stage)
    (real : ∀ context next, stage = .running (.setCurrent context next) → context ≠ 0) :
    (Move.thread block answers).SetsReal system := by
  intro thread context next found asks
  rw [found] at there
  exact real context next ((Option.some.inj there).symm.trans asks)

def HostThread.creator : HostThread := ⟨⟨2 ^ 45, 2 ^ 20⟩, 4096⟩

def HostThread.bystander : HostThread := ⟨⟨2 ^ 46, 2 ^ 20⟩, 8192⟩

def Move.createSwap : Move :=
  .call 0 (.create ⟨.swap, 77, some .standard, {}⟩ ⟨2 ^ 45, 4096⟩ (.upTo 65536 (2 ^ 30)))

def Turn.exchange : List Turn :=
  [.move .createSwap, .move (.call 0 (.start ⟨2 ^ 45, 4096⟩ ⟨12, 12⟩)),
    .move (.thread 331520 fun _ => none), .host .creator (2 ^ 45 + 64) (.setCurrent 9000),
    .move (.thread 331520 fun _ => none), .move (.thread 331520 fun _ => none)]

theorem exchange_avoids : Move.createSwap.Avoids [.creator, .bystander] := by
  intro host known mapping maps
  obtain ⟨place, short⟩ := MemoryAnswers.upTo_maps maps
  simp only [List.mem_cons, List.not_mem_nil, or_false] at known
  rcases known with rfl | rfl
  · simp only [Mapping.Apart, HostThread.creator]
    omega
  · simp only [Mapping.Apart, HostThread.bystander]
    omega

theorem exchange_lawful : System.LawfulTurns [.creator, .bystander] Turn.exchange {} := by
  have answers : (MemoryAnswers.upTo 65536 (2 ^ 30)).Lawful {} :=
    MemoryAnswers.upTo_lawful (by decide) (by decide) (by simp)
  have starts : LaunchAnswers.Lawful ⟨12, 12⟩ := ⟨by decide, by decide⟩
  have entering : ((System.play (Turn.exchange.take 2) {}).threadAt? 331520).map
      RuntimeThread.stage = some .entering := by rfl
  have announcing : ((System.play (Turn.exchange.take 4) {}).threadAt? 331520).map
      RuntimeThread.stage = some .announcing := by rfl
  have running : ((System.play (Turn.exchange.take 5) {}).threadAt? 331520).map
      RuntimeThread.stage = some (.running (.setCurrent 77 .done)) := by rfl
  have real (context : Nat) (next : Nat → Routine)
      (same : Stage.running (.setCurrent 77 .done) = .running (.setCurrent context next)) :
      context ≠ 0 := by
    cases same
    decide
  constructor
  · exact ⟨answers, exchange_avoids, trivial⟩
  constructor
  · exact ⟨starts, fun _ _ _ => False.elim, trivial⟩
  constructor
  · exact ⟨trivial, fun _ _ _ => False.elim, Move.setsReal entering nofun⟩
  constructor
  · exact ⟨by simp, ⟨rfl, by decide, by decide⟩, fun context same => by cases same; decide⟩
  constructor
  · exact ⟨trivial, fun _ _ _ => False.elim, Move.setsReal announcing nofun⟩
  constructor
  · exact ⟨trivial, fun _ _ _ => False.elim, Move.setsReal running real⟩
  · trivial

theorem contexts_isolated_exchange :
    System.LawfulTurns [.creator, .bystander] Turn.exchange {} ∧
      (System.play Turn.exchange {}).machine.current ⟨2 ^ 45, 4096⟩ = 9000 ∧
      (System.play Turn.exchange {}).machine.current ⟨2 ^ 46, 8192⟩ = 8192 ∧
      (System.play Turn.exchange {}).machine.current ⟨331000, 4096⟩ = 77 := by
  have fresh : System.Fresh {} := ⟨fun _ => rfl, rfl, rfl, fun _ => rfl, rfl, rfl⟩
  have homes : HostThreads [.creator, .bystander] := ⟨by decide, by decide⟩
  have apart := contexts_isolated fresh homes (by simp) exchange_lawful
  have shows : ((System.play Turn.exchange {}).threadAt? 331520).map
      (fun thread => (thread.region.stackLow, thread.stage)) =
        some (69632, .running (.done 331776)) := by rfl
  refine ⟨exchange_lawful, ?_, ?_, ?_⟩
  · have runs : (Party.host .creator).Runs [.creator, .bystander] ⟨2 ^ 45, 4096⟩
        (System.play Turn.exchange {}) := ⟨by simp, rfl, by decide, by decide⟩
    exact (apart.own runs).current
  · have runs : (Party.host .bystander).Runs [.creator, .bystander] ⟨2 ^ 46, 8192⟩
        (System.play Turn.exchange {}) := ⟨by simp, rfl, by decide, by decide⟩
    exact (apart.own runs).current
  · obtain ⟨thread, found, same⟩ := Option.map_eq_some_iff.mp shows
    obtain ⟨low, stage⟩ := Prod.mk.inj same
    have runs : (Party.runtime 331520).Runs [.creator, .bystander] ⟨331000, 4096⟩
        (System.play Turn.exchange {}) := by
      refine ⟨thread, found, ?_, ?_, by decide⟩
      · rw [stage]
        nofun
      · rw [low]
        decide
    exact (apart.own runs).current

end ArenaThreads
