import ArenaThreads.Proofs.Process.Claims
/-!
Calls on arenas among the moves of a process, and who owns the memory that is mapped after any of
them: each handle that is not empty has a region, each arena that was reserved and not released since
has a mapping, drops that could not wait have left some, and there is nothing else.
-/

namespace ArenaThreads

inductive ArenaCall
  | reserve (size : Nat) (answer : Except OsError Nat)
  | borrow (base length : Nat)
  | take (source : Nat)
  | release
  | drop
  | request (request : Arena.Request)

namespace ArenaCall

/-- A call on the arena kept at a place. A new arena takes the place of the one before, which is
released then; one that cannot be reserved leaves it as it is. -/
def perform (place : Nat) (machine : Machine) : ArenaCall → Machine
  | .reserve size answer =>
    match machine.reserveArena size answer with
    | (.error _, asked) => asked
    | (.ok arena, mapped) => mapped.replaceArena place arena
  | .borrow base length => machine.replaceArena place (.borrowed base length)
  | .take source =>
    Machine.replaceArena place (machine.arenas source)
      { machine with arenas := machine.arenas.set source .empty }
  | .release | .drop => machine.releaseArena place
  | .request asked => (asked.perform place machine).2

def keeps (page place : Nat) (reserved : Cells Nat (Option Mapping)) :
    ArenaCall → Cells Nat (Option Mapping)
  | .reserve size (.ok base) => reserved.set place (some ⟨base, Pages.round page (max size 1)⟩)
  | .borrow .. | .release | .drop => reserved.set place none
  | .take source => (reserved.set source none).set place (reserved source)
  | .reserve _ (.error _) | .request _ => reserved

def Lawful (machine : Machine) : ArenaCall → Prop
  | .reserve size answer => ∀ base, answer = .ok base →
      0 < Pages.round machine.page (max size 1) ∧
        Mapping.Free ⟨base, Pages.round machine.page (max size 1)⟩ machine
  | _ => True

end ArenaCall

inductive Act
  | move (move : Move)
  | arena (place : Nat) (call : ArenaCall)

namespace Act

/-- A client keeps no arena where a control block is, and the system maps no memory over one. -/
def Lawful (system : System) : Act → Prop
  | .move made => made.Lawful system ∧ made.AvoidsArenas system
  | .arena place call => (∀ owner memory, system.held owner = some memory → memory.block ≠ place) ∧
      call.Lawful system.machine

def Leaks (memory : ThreadMemory) (system : System) : Act → Prop
  | .move made => made.Leaks memory system
  | .arena .. => False

def keeps (page : Nat) (reserved : Cells Nat (Option Mapping)) : Act → Cells Nat (Option Mapping)
  | .move _ => reserved
  | .arena place call => call.keeps page place reserved

end Act

namespace System

def act (act : Act) (system : System) : System :=
  match act with
  | .move move => (system.step move).1
  | .arena place call => { system with machine := call.perform place system.machine }

def enact (acts : List Act) (system : System) : System :=
  acts.foldl (fun system act => system.act act) system

def LawfulActs : List Act → System → Prop
  | [], _ => True
  | act :: rest, system => act.Lawful system ∧ LawfulActs rest (system.act act)

def ActsLeak (memory : ThreadMemory) : List Act → System → Prop
  | [], _ => False
  | act :: rest, system => act.Leaks memory system ∨ ActsLeak memory rest (system.act act)

def reservedBy (acts : List Act) (system : System) : Cells Nat (Option Mapping) :=
  acts.foldl (fun reserved act => act.keeps system.machine.page reserved) fun _ => none

structure Bare (system : System) : Prop extends system.Fresh where
  mappings : system.machine.mappings = []
  arenas : ∀ place, (system.machine.arenas place).mapping = none

end System

def Machine.reserved (machine : Machine) : Cells Nat (Option Mapping) :=
  fun place => (machine.arenas place).mapping

/-! Calls on arenas -/

section

variable {machine after : Machine} {place : Nat} {arena : Arena}

theorem reserved_set (machine : Machine) (place : Nat) (arena : Arena) :
    Machine.reserved { machine with arenas := machine.arenas.set place arena } =
      machine.reserved.set place arena.mapping := by
  funext other
  by_cases here : other = place
  · subst here
    simp [Machine.reserved]
  · simp [Machine.reserved, Cells.set_other _ _ here]

theorem releaseArena_makes
    (mapped : ∀ mapping, machine.reserved place = some mapping → mapping ∈ machine.mappings) :
    Makes ((machine.reserved place).toList.map .unmap) machine (machine.releaseArena place) := by
  unfold Machine.releaseArena
  cases owns : (machine.arenas place).mapping with
  | none =>
    rw [show machine.reserved place = none from owns]
    exact .nothing rfl rfl
  | some mapping =>
    have there : machine.reserved place = some mapping := owns
    rw [there]
    have emptied : Makes [] machine { machine with arenas := machine.arenas.set place .empty } :=
      .nothing rfl rfl
    exact (emptied.trans (unmap_makes (mapped mapping there))).quietly rfl rfl

theorem releaseArena_arenas (place : Nat) (machine : Machine) :
    (machine.releaseArena place).arenas = machine.arenas.set place .empty := by
  unfold Machine.releaseArena
  split <;> rfl

theorem replaceArena_makes (arena : Arena)
    (mapped : ∀ mapping, machine.reserved place = some mapping → mapping ∈ machine.mappings) :
    Makes ((machine.reserved place).toList.map .unmap) machine (machine.replaceArena place arena) :=
  (releaseArena_makes mapped).quietly rfl rfl

theorem replaceArena_reserved (place : Nat) (arena : Arena) (machine : Machine) :
    (machine.replaceArena place arena).reserved = machine.reserved.set place arena.mapping := by
  funext other
  by_cases here : other = place
  · subst here
    simp [Machine.reserved, Machine.replaceArena]
  · simp [Machine.reserved, Machine.replaceArena, releaseArena_arenas, Cells.set_other _ _ here]

theorem releaseArena_reserved (place : Nat) (machine : Machine) :
    (machine.releaseArena place).reserved = machine.reserved.set place none := by
  have emptied := reserved_set machine place .empty
  rw [← releaseArena_arenas] at emptied
  exact emptied

theorem request_modest (place : Nat) (request : Arena.Request) (machine : Machine) :
    Modest machine (request.perform place machine).2 := by
  unfold Arena.Request.perform
  split
  · exact resize_modest ..
  · have range := congrArg Arena.mapping (request.range (machine.arenas place))
    exact set_modest range

theorem perform_reserved (place : Nat) (call : ArenaCall) (machine : Machine) :
    (call.perform place machine).reserved = call.keeps machine.page place machine.reserved := by
  cases call with
  | reserve size answer =>
    cases answer with
    | error error => rfl
    | ok base => exact replaceArena_reserved ..
  | borrow base length => exact replaceArena_reserved ..
  | take source =>
    rw [ArenaCall.perform, replaceArena_reserved, reserved_set]
    rfl
  | release => exact releaseArena_reserved ..
  | drop => exact releaseArena_reserved ..
  | request request => exact funext (request_modest place request machine).2

end

section

variable {system : System} {after : Machine} {place : Nat} {call : ArenaCall}

theorem claims_reserved {now : Option Mapping}
    (same : after.reserved = system.machine.reserved.set place now) :
    { system with machine := after }.claims = system.claims.set (.arena place) now := by
  funext claimant
  cases claimant with
  | thread owner => rfl
  | arena other =>
    have there := congrFun same other
    by_cases here : other = place
    · subst here
      rw [Cells.set_same] at there ⊢
      exact there
    · rw [Cells.set_other _ _ here] at there
      rw [Cells.set_other _ _ (by simpa using here)]
      exact there

theorem take_tally {source : Nat} {mappings : List Mapping} (tally : Tally system.claims mappings)
    (distinct : mappings.Nodup) (different : source ≠ place) :
    Tally ((system.claims.set (.arena source) none).set (.arena place) (system.claims (.arena source)))
      (MemoryCall.replay ((system.claims (.arena place)).toList.map .unmap) mappings) := by
  have released := tally.release distinct (rfl : system.claims (.arena place) = _)
  have moved := released.relabel (Equiv.swap (.arena source) (.arena place))
  have apart : Claimant.arena source ≠ .arena place := by simpa using different
  have claims : (system.claims.set (.arena place) none) ∘
      Equiv.swap (.arena source) (.arena place) =
        (system.claims.set (.arena source) none).set (.arena place)
          (system.claims (.arena source)) := by
    funext claimant
    by_cases there : claimant = .arena place
    · subst there
      simp [Cells.set_other _ _ apart]
    · by_cases here : claimant = .arena source
      · subst here
        simp [Cells.set_other _ _ apart]
      · rw [Function.comp_apply, Equiv.swap_apply_of_ne_of_ne here there,
          Cells.set_other _ _ there, Cells.set_other _ _ there, Cells.set_other _ _ here]
  rwa [claims] at moved

theorem Accounts.owned (accounts : Accounts system) (place : Nat) (mapping : Mapping)
    (owns : system.machine.reserved place = some mapping) : mapping ∈ system.machine.mappings :=
  (accounts.tally.claimed mapping).mpr ⟨.arena place, owns⟩

theorem emptied_tally (accounts : Accounts system)
    (makes : Makes ((system.machine.reserved place).toList.map .unmap) system.machine after)
    (emptied : after.reserved = system.machine.reserved.set place none) :
    Tally { system with machine := after }.claims after.mappings := by
  rw [claims_reserved emptied, makes.mappings]
  exact accounts.tally.release accounts.spread.nodup (rfl : system.claims (.arena place) = _)

/-- A new arena claims the memory that is mapped for it, before the one in its place is released. -/
theorem reserve_tally {size base : Nat} (accounts : Accounts system) (place : Nat)
    (lawful : (ArenaCall.reserve size (.ok base)).Lawful system.machine) :
    ∃ made, Makes made system.machine
        ((ArenaCall.reserve size (.ok base)).perform place system.machine) ∧
      Tally { system with
          machine := (ArenaCall.reserve size (.ok base)).perform place system.machine }.claims
        ((ArenaCall.reserve size (.ok base)).perform place system.machine).mappings := by
  obtain ⟨positive, free⟩ := lawful base rfl
  have reserved := perform_reserved place (.reserve size (.ok base)) system.machine
  generalize long : Pages.round system.machine.page (max size 1) = length at positive free
  let mapped := (system.machine.map length (.ok base)).2.emit (.arenaReserved size length base)
  have maps : Makes [.map length (.ok base)] system.machine mapped :=
    (map_makes positive free).quietly rfl rfl
  have kept (mapping : Mapping) (owns : mapped.reserved place = some mapping) :
      mapping ∈ mapped.mappings := List.mem_cons_of_mem _ (accounts.owned place mapping owns)
  have replaces : Makes ((system.machine.reserved place).toList.map .unmap) mapped
      (mapped.replaceArena place (.owned ⟨base, length⟩ size)) := replaceArena_makes _ kept
  have made := maps.trans replaces
  have spread : Mapping.Spread (⟨base, length⟩ :: system.machine.mappings) :=
    maps.exact.1.spread accounts.spread
  have reached : (ArenaCall.reserve size (.ok base)).perform place system.machine =
      mapped.replaceArena place (.owned ⟨base, length⟩ size) := by
    subst long
    rfl
  rw [reached] at reserved ⊢
  refine ⟨_, made, ?_⟩
  rw [claims_reserved reserved, made.mappings, MemoryCall.replay_append, long]
  exact accounts.tally.renew spread.nodup (rfl : system.claims (.arena place) = _)

theorem moved_tally (accounts : Accounts system) (place source : Nat) :
    ∃ made, Makes made system.machine ((ArenaCall.take source).perform place system.machine) ∧
      Tally { system with machine := (ArenaCall.take source).perform place system.machine }.claims
        ((ArenaCall.take source).perform place system.machine).mappings := by
  let left : Machine := { system.machine with arenas := system.machine.arenas.set source .empty }
  have emptied : left.reserved = system.machine.reserved.set source none := reserved_set ..
  have still (mapping : Mapping) (owns : left.reserved place = some mapping) :
      mapping ∈ left.mappings := by
    rw [emptied] at owns
    by_cases same : place = source
    · rw [same, Cells.set_same] at owns
      cases owns
    · rw [Cells.set_other _ _ same] at owns
      exact accounts.owned place mapping owns
  have leaves : Makes [] system.machine left := .nothing rfl rfl
  have made := leaves.trans (replaceArena_makes (system.machine.arenas source) still)
  refine ⟨_, made, ?_⟩
  have first : { system with machine := left }.claims =
      system.claims.set (.arena source) none := claims_reserved emptied
  have second := @claims_reserved { system with machine := left } _ place
    (system.machine.reserved source) (replaceArena_reserved place _ left)
  rw [first] at second
  change Tally { system with machine := left.replaceArena place (system.machine.arenas source) }.claims
    (left.replaceArena place (system.machine.arenas source)).mappings
  rw [second, made.mappings, List.nil_append, emptied]
  by_cases same : place = source
  · have claim : system.claims (.arena source) = system.machine.reserved source := rfl
    rw [same, Cells.set_same, Cells.set_set, ← claim, Cells.set_self]
    exact accounts.tally
  · rw [Cells.set_other _ _ same]
    exact take_tally accounts.tally accounts.spread.nodup (Ne.symm same)

theorem perform_tally (accounts : Accounts system) (place : Nat)
    (lawful : call.Lawful system.machine) :
    ∃ made, Makes made system.machine (call.perform place system.machine) ∧
      Tally { system with machine := call.perform place system.machine }.claims
        (call.perform place system.machine).mappings := by
  cases call with
  | reserve size answer =>
    cases answer with
    | error error => exact ⟨[.map _ (.error error)], ⟨rfl, rfl, trivial, trivial⟩, accounts.tally⟩
    | ok base => exact reserve_tally accounts place lawful
  | borrow base length =>
    have made := replaceArena_makes (.borrowed base length) (accounts.owned place)
    exact ⟨_, made, emptied_tally accounts made (replaceArena_reserved ..)⟩
  | take source => exact moved_tally accounts place source
  | release =>
    have made := releaseArena_makes (accounts.owned place)
    exact ⟨_, made, emptied_tally accounts made (releaseArena_reserved ..)⟩
  | drop =>
    have made := releaseArena_makes (accounts.owned place)
    exact ⟨_, made, emptied_tally accounts made (releaseArena_reserved ..)⟩
  | request request =>
    obtain ⟨⟨made, asks, makes⟩, spares⟩ := request_modest place request system.machine
    have balances : Balances system made
        { system with machine := (request.perform place system.machine).2 } :=
      .still accounts ⟨asks, makes⟩ spares rfl
    exact ⟨made, makes, balances.tally⟩

theorem perform_aside (place : Nat) (call : ArenaCall) (machine : Machine) :
    (call.perform place machine).page = machine.page ∧
      (call.perform place machine).blocks = machine.blocks ∧
      (call.perform place machine).registry = machine.registry := by
  have releases (machine : Machine) : (machine.releaseArena place).page = machine.page ∧
      (machine.releaseArena place).blocks = machine.blocks ∧
      (machine.releaseArena place).registry = machine.registry := by
    unfold Machine.releaseArena
    split <;> exact ⟨rfl, rfl, rfl⟩
  cases call with
  | reserve size answer =>
    cases answer with
    | error error => exact ⟨rfl, rfl, rfl⟩
    | ok base => exact releases _
  | borrow base length => exact releases machine
  | take source => exact releases _
  | release => exact releases machine
  | drop => exact releases machine
  | request request =>
    cases request with
    | view block oldSize newSize =>
      have spares := @resize_spares machine (fun _ => none) (.arena place) block oldSize newSize
      exact ⟨spares.page, spares.blocks, spares.registry⟩
    | _ => exact ⟨rfl, rfl, rfl⟩

theorem Sound.remapped (sound : Sound system) (blocks : after.blocks = system.machine.blocks)
    (registry : after.registry = system.machine.registry)
    (mapped : ∀ {owner memory}, system.held owner = some memory →
      memory.region.mapping ∈ after.mappings) : Sound { system with machine := after } := by
  refine ⟨⟨?_, sound.ownership.apart, ?_, ?_⟩, ?_, ?_, sound.owned, ?_⟩
  · intro owner memory mine
    have house := sound.ownership.housed mine
    refine ⟨house.registered, house.placed, mapped mine, ?_⟩
    rw [blocks]
    exact house.described
  · rw [blocks, registry]
    exact sound.ownership.linked
  · rw [blocks, registry]
    exact sound.ownership.members
  · intro name
    obtain ⟨state, represents⟩ := sound.handles name
    exact ⟨state, represents.transport fun memory has => by rw [blocks]⟩
  · intro owner memory mine
    rw [blocks]
    exact sound.crewed mine
  · intro name joining waiting
    exact (sound.waiting waiting).transport rfl fun memory _ => by rw [blocks]

theorem ArenaCall.keeps_other {page other : Nat} {reserved : Cells Nat (Option Mapping)}
    (call : ArenaCall) (different : other ≠ place) (nothing : reserved other = none) :
    call.keeps page place reserved other = none := by
  cases call with
  | reserve size answer =>
    cases answer with
    | error error => exact nothing
    | ok base => exact (Cells.set_other _ _ different).trans nothing
  | take source =>
    rw [ArenaCall.keeps, Cells.set_other _ _ different]
    by_cases here : other = source
    · rw [here, Cells.set_same]
    · rw [Cells.set_other _ _ here, nothing]
  | request request => exact nothing
  | borrow | release | drop => exact (Cells.set_other _ _ different).trans nothing

/-! Acts -/

theorem Accounts.perform (accounts : Accounts system)
    (lawful : (Act.arena place call).Lawful system) :
    ∃ made, Makes made system.machine (call.perform place system.machine) ∧
      Accounts { system with machine := call.perform place system.machine } := by
  obtain ⟨apart, lawful⟩ := lawful
  obtain ⟨made, makes, tally⟩ := perform_tally accounts place lawful
  obtain ⟨-, blocks, registry⟩ := perform_aside place call system.machine
  refine ⟨made, makes, ?_, accounts.roomy, ?_, ?_, tally⟩
  · apply accounts.sound.remapped blocks registry
    intro owner memory mine
    refine (tally.claimed _).mpr ⟨.thread owner, ?_⟩
    change (system.held owner).map _ = _
    rw [mine]
    rfl
  · intro owner memory mine
    have reserved := congrFun (perform_reserved place call system.machine) memory.block
    exact reserved.trans (call.keeps_other (apart owner memory mine) (accounts.clear owner memory mine))
  · change Mapping.Spread (call.perform place system.machine).mappings
    rw [makes.mappings]
    exact makes.exact.spread accounts.spread

theorem Accounts.move {move : Move} (accounts : Accounts system)
    (lawful : (Act.move move).Lawful system) :
    ∃ made, Makes made system.machine (system.step move).1.machine ∧
      SparesArenas system.machine (system.step move).1.machine ∧
      Accounts (system.step move).1 := by
  obtain ⟨lawful, avoids⟩ := lawful
  obtain ⟨made, makes, spares, tally⟩ := step_balances accounts lawful avoids
  refine ⟨made, makes, spares, step_sound accounts.sound lawful, accounts.roomy.step, ?_, ?_, tally⟩
  · intro owner memory mine
    have house := (step_sound accounts.sound lawful).ownership.housed mine
    have before : (system.machine.arenas memory.block).mapping = none := by
      rcases step_had mine with ⟨other, further, theirs, same⟩ | ⟨mapped, -⟩
      · have block : memory.block = further.block := by
          rw [ThreadMemory.block, ThreadMemory.block, same]
        rw [block]
        exact accounts.clear other further theirs
      · have inside := Region.block_inside house.placed
        have filled := Region.storage_inside house.placed
        apply avoids _ mapped
        · simp only [Region.mapping, Region.stackLow, ThreadMemory.block] at *
          omega
        · simp only [Region.mapping, ControlBlock.size, ThreadMemory.block] at *
          omega
    exact (spares memory.block).trans before
  · rw [makes.mappings]
    exact makes.exact.spread accounts.spread

end

structure Accounted (acts : List Act) (start : System) : Prop where
  accounts : Accounts (start.enact acts)
  page : (start.enact acts).machine.page = start.machine.page
  calls : ∃ made, Makes made start.machine (start.enact acts).machine
  reserved : (start.enact acts).machine.reserved = start.reservedBy acts

section

variable {system : System} {acts : List Act} {act : Act}

theorem System.enact_append (first second : List Act) (system : System) :
    system.enact (first ++ second) = (system.enact first).enact second := by
  simp [enact, List.foldl_append]

theorem System.lawfulActs_append {first second : List Act} :
    System.LawfulActs (first ++ second) system ↔
      System.LawfulActs first system ∧ System.LawfulActs second (system.enact first) := by
  induction first generalizing system with
  | nil => simp [LawfulActs, enact]
  | cons act rest ih => simp [LawfulActs, ih, enact, and_assoc]

theorem enact_abandoned {memory : ThreadMemory} :
    memory ∈ (system.enact acts).abandoned ↔
      memory ∈ system.abandoned ∨ system.ActsLeak memory acts := by
  induction acts generalizing system with
  | nil => simp [System.enact, System.ActsLeak]
  | cons act rest ih =>
    have first : memory ∈ (system.act act).abandoned ↔
        memory ∈ system.abandoned ∨ act.Leaks memory system := by
      cases act with
      | move move => exact step_abandoned move
      | arena place call => simp [System.act, Act.Leaks]
    have run : system.enact (act :: rest) = (system.act act).enact rest := rfl
    rw [run, ih, first, System.ActsLeak, or_assoc]

theorem Accounts.bare (bare : system.Bare) : Accounts system := by
  have sound : Sound system := .fresh bare.toFresh
  have nobody (owner : Owner) : system.held owner = none := by
    cases owner with
    | handle name => simp [System.held, bare.handles, Handle.empty]
    | abandoned index => simp [System.held, bare.abandoned]
  have nothing (claimant : Claimant) : system.claims claimant = none := by
    cases claimant with
    | thread owner => simp [System.claims, nobody]
    | arena place => exact bare.arenas place
  refine ⟨sound, ?_, ?_, ?_, ?_, ?_⟩
  · intro owner memory mine
    cases (nobody owner).symm.trans mine
  · intro owner memory mine
    cases (nobody owner).symm.trans mine
  · rw [bare.mappings]
    exact ⟨fun mapping member => absurd member List.not_mem_nil, .nil⟩
  · simp [bare.mappings, nothing]
  · intro one other mapping mine
    cases (nothing one).symm.trans mine

theorem Accounted.further (accounted : Accounted acts system) (lawful : act.Lawful (system.enact acts)) :
    Accounted (acts ++ [act]) system := by
  obtain ⟨accounts, page, ⟨made, makes⟩, reserved⟩ := accounted
  have run : system.enact (acts ++ [act]) = (system.enact acts).act act := by
    rw [System.enact_append]
    rfl
  have keeps : system.reservedBy (acts ++ [act]) =
      act.keeps system.machine.page (system.reservedBy acts) := by
    simp [System.reservedBy, List.foldl_append]
  cases act with
  | move move =>
    obtain ⟨further, moves, spares, after⟩ := accounts.move lawful
    have effect := step_effect accounts.sound lawful.1
    constructor
    · rw [run]
      exact after
    · rw [run, ← page]
      exact effect.page
    · rw [run]
      exact ⟨_, makes.trans moves⟩
    · rw [run, keeps]
      exact (funext spares).trans reserved
  | arena place call =>
    obtain ⟨further, performs, after⟩ := accounts.perform lawful
    constructor
    · rw [run]
      exact after
    · rw [run, ← page]
      exact (perform_aside place call _).1
    · rw [run]
      exact ⟨_, makes.trans performs⟩
    · have changed := perform_reserved place call (system.enact acts).machine
      rw [page, reserved] at changed
      rw [run, keeps]
      exact changed

theorem enact_accounted (bare : system.Bare) (lawful : System.LawfulActs acts system) :
    Accounted acts system := by
  induction acts using List.reverseRecOn with
  | nil => exact ⟨.bare bare, rfl, ⟨[], .nothing rfl rfl⟩, funext bare.arenas⟩
  | append_singleton earlier act ih =>
    obtain ⟨before, now⟩ := System.lawfulActs_append.mp lawful
    exact (ih before).further now.1

end

/-- How a create for a handle with memory treats that memory: sizes that it has already need no call,
and for other sizes it is given back only when there is new memory. -/
structure CreateMaps (system : System) (name : Nat) (request : CreateRequest) (caller : Caller)
    (answers : MemoryAnswers) (memory : ThreadMemory) : Prop where
  reuse : memory.region.fits (request.sizing.rounded system.machine.page) = true →
    ((system.handles name).create request caller answers system.machine).2.1.calls =
        system.machine.calls ∧
      ((system.handles name).create request caller answers system.machine).2.1.mappings =
        system.machine.mappings
  renewal : memory.region.fits (request.sizing.rounded system.machine.page) = false →
    (Act.move (.call name (.create request caller answers))).Lawful system →
    ∃ made, ((system.handles name).create request caller answers system.machine).2.1.calls =
        system.machine.calls ++ made ∧
      ∀ front back, made = front ++ .unmap memory.region.mapping :: back → ∃ base, front =
        [.map ((request.sizing.rounded system.machine.page).regionLength system.machine.page)
            (.ok base), .protect base system.machine.page none]
  renewed : memory.region.fits (request.sizing.rounded system.machine.page) = false →
    (Act.move (.call name (.create request caller answers))).Lawful system →
    ((system.handles name).create request caller answers system.machine).2.2 = .ok () →
    ∃ mapping, ((system.handles name).create request caller answers system.machine).1.mapping? =
        some mapping ∧
      mapping.length =
        (request.sizing.rounded system.machine.page).regionLength system.machine.page ∧
      ((system.handles name).create request caller answers system.machine).2.1.calls =
        system.machine.calls ++ [.map mapping.length (.ok mapping.base),
          .protect mapping.base system.machine.page none, .unmap memory.region.mapping]

structure MemoryOwned (acts : List Act) (start : System) : Prop where
  mapped : ∀ mapping, mapping ∈ (start.enact acts).machine.mappings ↔
    (∃ name memory, (start.enact acts).handles name ≠ .empty ∧
      ((start.enact acts).handles name).memory = some memory ∧ memory.region.mapping = mapping) ∨
    (∃ place, start.reservedBy acts place = some mapping) ∨
    ∃ memory, start.ActsLeak memory acts ∧ memory.region.mapping = mapping
  furnished : ∀ name, (start.enact acts).handles name ≠ .empty →
    ∃ memory, ((start.enact acts).handles name).memory = some memory
  spread : Mapping.Spread (start.enact acts).machine.mappings
  alone : ∀ {one other mapping}, (start.enact acts).claims one = some mapping →
    (start.enact acts).claims other = some mapping → one = other
  reserved : ∀ place, ((start.enact acts).machine.arenas place).mapping = start.reservedBy acts place
  calls : ∃ made, (start.enact acts).machine.calls = start.machine.calls ++ made ∧
    (start.enact acts).machine.mappings = MemoryCall.replay made [] ∧ MemoryCall.AllExact made []
  creates : ∀ name request caller answers memory,
    ((start.enact acts).handles name).memory = some memory →
    CreateMaps (start.enact acts) name request caller answers memory

section

variable {system : System} {acts : List Act} {name : Nat} {memory : ThreadMemory}

theorem Accounts.create_maps (accounts : Accounts system) (request : CreateRequest)
    (caller : Caller) (answers : MemoryAnswers)
    (has : (system.handles name).memory = some memory) :
    CreateMaps system name request caller answers memory := by
  have mine : system.held (.handle name) = (system.handles name).memory := rfl
  have mapped := accounts.mapped name memory has
  have had : (system.handles name).mapping? = some memory.region.mapping := by
    rw [Handle.mapping?, has]
    rfl
  have calls (unfit : memory.region.fits (request.sizing.rounded system.machine.page) = false)
      (lawful : (Act.move (.call name (.create request caller answers))).Lawful system) :
      ∃ made, CreateCalls system.machine.page
          ((request.sizing.rounded system.machine.page).regionLength system.machine.page)
          (some memory.region.mapping)
          ((system.handles name).create request caller answers system.machine).1.mapping?
          ((system.handles name).create request caller answers system.machine).2.2.isOk made ∧
        Makes made system.machine
          ((system.handles name).create request caller answers system.machine).2.1 := by
    have unfits : (system.handles name).Unfit (request.sizing.rounded system.machine.page) := by
      intro other further
      cases has.symm.trans further
      exact unfit
    obtain ⟨made, calls, makes, -⟩ := unfit_makes request caller ⟨accounts.clear, lawful.2⟩
      accounts.sound.ownership mine lawful.1 unfits
    rw [had] at calls
    exact ⟨made, calls, makes⟩
  constructor
  · intro fits
    obtain ⟨-, makes, -⟩ := reuse_makes request caller answers
      (accounts.clear _ memory (mine.trans has)) mapped has
      (accounts.roomy _ memory (mine.trans has)) fits
    exact ⟨makes.calls.trans (List.append_nil _), makes.mappings⟩
  · intro unfit lawful
    obtain ⟨made, calls, makes⟩ := calls unfit lawful
    exact ⟨made, makes.calls, fun front back split => calls.order makes.exact mapped split⟩
  · intro unfit lawful succeeds
    obtain ⟨made, calls, makes⟩ := calls unfit lawful
    rw [succeeds] at calls
    generalize ((system.handles name).create request caller answers system.machine).1.mapping? =
      now at calls
    cases calls with
    | renewed base => exact ⟨_, rfl, rfl, makes.calls⟩

/-- A process that starts with no memory mapped has mapped at all times exactly what its handles,
its arenas and its failed drops own, each of them something else. -/
theorem memory_owned_exactly (bare : system.Bare) (lawful : System.LawfulActs acts system) :
    MemoryOwned acts system := by
  obtain ⟨accounts, -, calls, reserved⟩ := enact_accounted bare lawful
  have leaks (memory : ThreadMemory) : memory ∈ (system.enact acts).abandoned ↔
      system.ActsLeak memory acts := by
    rw [enact_abandoned, bare.abandoned]
    simp
  constructor
  case mapped =>
    intro mapping
    rw [accounts.tally.claimed]
    constructor
    · rintro ⟨claimant, claims⟩
      -- A claim is an arena's, a handle's, or one of memory that a drop has left alone.
      cases claimant with
      | arena place => exact .inr (.inl ⟨place, (congrFun reserved place).symm.trans claims⟩)
      | thread owner =>
        obtain ⟨memory, mine, same⟩ := Option.map_eq_some_iff.mp claims
        cases owner with
        | handle name =>
          refine .inl ⟨name, memory, ?_, mine, same⟩
          intro empty
          cases (congrArg Handle.memory empty).symm.trans mine
        | abandoned index =>
          exact .inr (.inr ⟨memory, (leaks memory).mp (List.mem_of_getElem? mine), same⟩)
    · rintro (⟨name, memory, -, has, same⟩ | ⟨place, owns⟩ | ⟨memory, leaked, same⟩)
      · refine ⟨.thread (.handle name), ?_⟩
        exact Option.map_eq_some_iff.mpr ⟨memory, has, same⟩
      · exact ⟨.arena place, (congrFun reserved place).trans owns⟩
      · obtain ⟨index, there⟩ := List.mem_iff_getElem?.mp ((leaks memory).mpr leaked)
        refine ⟨.thread (.abandoned index), ?_⟩
        exact Option.map_eq_some_iff.mpr ⟨memory, there, same⟩
  case furnished =>
    intro name full
    obtain ⟨state, represents⟩ := accounts.sound.handles name
    cases has : ((system.enact acts).handles name).memory with
    | none => exact absurd (Handle.empty_of_no_memory represents has) full
    | some memory => exact ⟨memory, rfl⟩
  case spread => exact accounts.spread
  case alone => exact accounts.tally.alone
  case reserved => exact fun place => congrFun reserved place
  case calls =>
    obtain ⟨made, makes⟩ := calls
    rw [← bare.mappings]
    exact ⟨made, makes.calls, makes.mappings, makes.exact⟩
  case creates =>
    exact fun name request caller answers memory has => accounts.create_maps request caller answers has

theorem Accounts.low_places {low place : Nat} (accounts : Accounts system)
    (mapped : ∀ mapping ∈ system.machine.mappings, low ≤ mapping.base) (beneath : place < low)
    (owner : Owner) (memory : ThreadMemory) (mine : system.held owner = some memory) :
    memory.block ≠ place := by
  have house := accounts.sound.ownership.housed mine
  have high := mapped _ house.mapped
  have inside := Region.block_inside house.placed
  simp only [Region.mapping, Region.stackLow, ThreadMemory.block] at *
  omega

def System.busyActs : List Act :=
  let larger : CreateRequest := ⟨.identity, 7, some .standard, ⟨2 ^ 20, 2 ^ 20⟩⟩
  [.move (.createAt 0 65536 7), .arena 64 (.reserve 100 (.ok (2 ^ 41))),
    .move (.call 0 (.create larger ⟨0, 0⟩
      { MemoryAnswers.upTo (2 ^ 40) (2 ^ 30) with protect := some .outOfMemory })),
    .move (.call 0 (.create larger ⟨0, 0⟩ (.upTo (2 ^ 40) (2 ^ 30)))), .arena 80 (.take 64),
    .move (.startAs 0 12), .move (.call 0 .drop), .move (.join 0 ⟨0⟩ none),
    .move (.join 0 ⟨0⟩ (some .outOfMemory)), .move (.join 0 ⟨0⟩ none)]

theorem memory_owned_exactly_leaked :
    MemoryOwned System.busyActs {} ∧ (System.enact System.busyActs {}).machine.mappings =
      [⟨2 ^ 40, 2101248⟩, ⟨2 ^ 41, 4096⟩] := by
  have fresh : System.Fresh {} := ⟨fun _ => rfl, rfl, rfl, fun _ => rfl, rfl, rfl⟩
  have bare : System.Bare {} := ⟨fresh, rfl, fun _ => rfl⟩
  let reached (count : Nat) : System := System.enact (System.busyActs.take count) {}
  have silent {move : Move} (maps : ∀ mapping, ¬ move.Maps mapping) (system : System) :
      move.AvoidsArenas system := fun mapping named => absurd named (maps mapping)
  -- The only arena that owns memory is kept below all that the system maps.
  have avoids {count : Nat} {protect : Option OsError} (request : CreateRequest)
      (accounted : Accounted (System.busyActs.take count) {})
      (kept : System.reservedBy (System.busyActs.take count) {} =
        Cells.set (fun _ => none) 64 (some ⟨2 ^ 41, 4096⟩)) :
      (Move.call 0 (.create request ⟨0, 0⟩
        ⟨(MemoryAnswers.upTo (2 ^ 40) (2 ^ 30)).map, protect⟩)).AvoidsArenas (reached count) := by
    intro mapping maps place high _
    have same := MemoryAnswers.upTo_base maps
    refine (congrFun (accounted.reserved.trans kept) place).trans (Cells.set_other _ _ ?_)
    omega
  have zero : Accounted [] {} := enact_accounted bare trivial
  have first : System.busyActs[0].Lawful (reached 0) :=
    ⟨MemoryAnswers.upTo_lawful (by decide) (by decide) nofun, fun _ _ _ _ _ => rfl⟩
  have one : Accounted (System.busyActs.take 1) {} := zero.further first
  have mapped : (reached 1).machine.mappings = [⟨65536, 331776⟩] := rfl
  have second : System.busyActs[1].Lawful (reached 1) := by
    refine ⟨@Accounts.low_places _ 65536 _ one.accounts (by decide) (by decide), ?_⟩
    rintro base ⟨⟩
    refine ⟨by decide, by decide, by decide, ?_⟩
    simp only [mapped, List.mem_singleton, forall_eq, Mapping.Apart]
    decide
  have two : Accounted (System.busyActs.take 2) {} := one.further second
  have room {machine : Machine} (both : machine.mappings = [⟨2 ^ 41, 4096⟩, ⟨65536, 331776⟩]) :
      (MemoryAnswers.upTo (2 ^ 40) (2 ^ 30)).Lawful machine := by
    apply MemoryAnswers.upTo_lawful (by decide) (by decide)
    simp [both, Mapping.Apart]
  have third : System.busyActs[2].Lawful (reached 2) := ⟨room rfl, avoids _ two rfl⟩
  have three : Accounted (System.busyActs.take 3) {} := two.further third
  have fourth : System.busyActs[3].Lawful (reached 3) := ⟨room rfl, avoids _ three rfl⟩
  have four : Accounted (System.busyActs.take 4) {} := three.further fourth
  have fifth : System.busyActs[4].Lawful (reached 4) :=
    ⟨@Accounts.low_places _ 65536 _ four.accounts (by decide) (by decide), trivial⟩
  have lawful : System.LawfulActs System.busyActs {} :=
    ⟨first, second, third, fourth, fifth, ⟨⟨by decide, by decide⟩, silent (fun _ => id) _⟩,
      ⟨trivial, silent (fun _ => id) _⟩, ⟨trivial, silent (fun _ => id) _⟩,
      ⟨trivial, silent (fun _ => id) _⟩, ⟨trivial, silent (fun _ => id) _⟩, trivial⟩
  exact ⟨memory_owned_exactly bare lawful, rfl⟩

end

end ArenaThreads
