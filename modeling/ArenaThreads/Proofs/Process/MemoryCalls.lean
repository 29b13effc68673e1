import ArenaThreads.Proofs.Arena.Ledger
import ArenaThreads.Proofs.Process.FailedCreate
/-!
The calls on memory management that operations make, read as a history: which memory is mapped after
them, and whether each takes away exactly what one of those before it has mapped.
-/

namespace ArenaThreads

namespace MemoryCall

def apply (mappings : List Mapping) : MemoryCall → List Mapping
  | .map length (.ok base) => ⟨base, length⟩ :: mappings
  | .unmap mapping => mappings.erase mapping
  | _ => mappings

def replay (calls : List MemoryCall) (mappings : List Mapping) : List Mapping :=
  calls.foldl apply mappings

/-- New memory is apart from all that is mapped, and what is taken away is one mapping in full. -/
def Exact (mappings : List Mapping) : MemoryCall → Prop
  | .map length (.ok base) => 0 < length ∧ ∀ other ∈ mappings, Mapping.Apart ⟨base, length⟩ other
  | .unmap mapping => mapping ∈ mappings
  | _ => True

def AllExact : List MemoryCall → List Mapping → Prop
  | [], _ => True
  | call :: rest, mappings => call.Exact mappings ∧ AllExact rest (call.apply mappings)

end MemoryCall

structure Mapping.Spread (mappings : List Mapping) : Prop where
  some : ∀ mapping ∈ mappings, 0 < mapping.length
  apart : mappings.Pairwise Mapping.Apart

/-- An operation makes these calls, and what is mapped afterwards is what they have mapped. -/
structure Makes (made : List MemoryCall) (before after : Machine) : Prop where
  calls : after.calls = before.calls ++ made
  mappings : after.mappings = MemoryCall.replay made before.mappings
  exact : MemoryCall.AllExact made before.mappings

def SparesArenas (before after : Machine) : Prop :=
  ∀ place, (after.arenas place).mapping = (before.arenas place).mapping

def Handle.mapping? (handle : Handle) : Option Mapping :=
  handle.memory.map fun memory => memory.region.mapping

/-- The calls of a create that does not use memory again, what memory the handle has after them, and
whether it succeeds: nothing is asked; the new memory or its guard page is refused; the new memory is
there, and only then is the old one given back; and the new one with it when it has no room for a
context copy. -/
inductive CreateCalls (page length : Nat) (had : Option Mapping) :
    Option Mapping → Bool → List MemoryCall → Prop
  | nothing : CreateCalls page length had had false []
  | refused (error : OsError) :
    CreateCalls page length had had false [.map length (.error error)]
  | unguarded (base : Nat) (error : OsError) :
    CreateCalls page length had had false
      [.map length (.ok base), .protect base page (some error), .unmap ⟨base, length⟩]
  | renewed (base : Nat) :
    CreateCalls page length had (some ⟨base, length⟩) true
      ([.map length (.ok base), .protect base page none] ++ had.toList.map .unmap)
  | lost (base : Nat) :
    CreateCalls page length had none false
      ([.map length (.ok base), .protect base page none] ++ had.toList.map .unmap ++
        [.unmap ⟨base, length⟩])

/-! Histories of calls -/

namespace MemoryCall

variable {calls first second : List MemoryCall} {mappings : List Mapping} {call : MemoryCall}

theorem replay_append (first second : List MemoryCall) (mappings : List Mapping) :
    replay (first ++ second) mappings = replay second (replay first mappings) :=
  List.foldl_append ..

theorem allExact_append :
    AllExact (first ++ second) mappings ↔
      AllExact first mappings ∧ AllExact second (replay first mappings) := by
  induction first generalizing mappings with
  | nil => simp [AllExact, replay]
  | cons call rest ih => simp [AllExact, replay, ih, and_assoc]

theorem Exact.spread (exact : call.Exact mappings) (spread : Mapping.Spread mappings) :
    Mapping.Spread (call.apply mappings) := by
  cases call with
  | map length answer =>
    cases answer with
    | error error => exact spread
    | ok base =>
      refine ⟨?_, List.pairwise_cons.mpr ⟨exact.2, spread.apart⟩⟩
      exact List.forall_mem_cons.mpr ⟨exact.1, spread.some⟩
  | unmap mapping =>
    refine ⟨fun other member => spread.some other (List.mem_of_mem_erase member), ?_⟩
    exact spread.apart.sublist List.erase_sublist
  | protect base length failure => exact spread
  | heap request => exact spread

theorem AllExact.spread (exact : AllExact calls mappings) (spread : Mapping.Spread mappings) :
    Mapping.Spread (replay calls mappings) := by
  induction calls generalizing mappings with
  | nil => exact spread
  | cons call rest ih => exact ih exact.2 (exact.1.spread spread)

end MemoryCall

namespace Mapping

variable {mapping other : Mapping} {mappings : List Mapping}

theorem Apart.ne (apart : mapping.Apart other) (some : 0 < mapping.length) : mapping ≠ other := by
  rintro rfl
  simp only [Apart] at apart
  omega

theorem Spread.nodup (spread : Spread mappings) : mappings.Nodup :=
  spread.apart.imp_of_mem fun member _ apart => apart.ne (spread.some _ member)

end Mapping

/-! The calls of single operations -/

section

variable {calls first second : List MemoryCall} {before between after machine : Machine}
  {memory : ThreadMemory} {assignment : Assignment} {sizing : Sizing} {answers : MemoryAnswers}

theorem Makes.trans (makes : Makes first before between) (further : Makes second between after) :
    Makes (first ++ second) before after := by
  refine ⟨?_, ?_, MemoryCall.allExact_append.mpr ⟨makes.exact, ?_⟩⟩
  · rw [further.calls, makes.calls, List.append_assoc]
  · rw [further.mappings, makes.mappings, MemoryCall.replay_append]
  · rw [← makes.mappings]
    exact further.exact

theorem Makes.nothing (calls : after.calls = before.calls)
    (mappings : after.mappings = before.mappings) : Makes [] before after :=
  ⟨by rw [calls, List.append_nil], mappings, trivial⟩

theorem Makes.quietly (makes : Makes first before between) (calls : after.calls = between.calls)
    (mappings : after.mappings = between.mappings) : Makes first before after := by
  have further := makes.trans (Makes.nothing calls mappings)
  rwa [List.append_nil] at further

theorem SparesArenas.trans (spares : SparesArenas before between)
    (further : SparesArenas between after) : SparesArenas before after :=
  fun place => (further place).trans (spares place)

theorem map_makes {length base : Nat} (some : 0 < length)
    (free : Mapping.Free ⟨base, length⟩ machine) :
    Makes [.map length (.ok base)] machine (machine.map length (.ok base)).2 :=
  ⟨rfl, rfl, ⟨some, free.apart⟩, trivial⟩

theorem unmap_makes {mapping : Mapping} (mapped : mapping ∈ machine.mappings) :
    Makes [.unmap mapping] machine (machine.unmap mapping) := ⟨rfl, rfl, mapped, trivial⟩

theorem withdraw_still (memory : ThreadMemory) (machine : Machine) :
    (memory.withdraw machine).calls = machine.calls ∧
      (memory.withdraw machine).mappings = machine.mappings ∧
      (memory.withdraw machine).arenas = machine.arenas := by
  unfold ThreadMemory.withdraw
  split <;> exact ⟨rfl, rfl, rfl⟩

theorem release_makes (mapped : memory.region.mapping ∈ machine.mappings) :
    Makes [.unmap memory.region.mapping] machine (memory.release machine) ∧
      SparesArenas machine (memory.release machine) := by
  obtain ⟨calls, mappings, arenas⟩ := withdraw_still memory machine
  constructor
  · refine (Makes.nothing calls mappings).trans (unmap_makes ?_)
    rw [mappings]
    exact mapped
  · intro place
    exact congrArg Arena.mapping (congrFun arenas place)

theorem set_spares {place : Nat} {arena : Arena} (absent : (machine.arenas place).mapping = none)
    (borrowed : arena.mapping = none) :
    SparesArenas machine { machine with arenas := machine.arenas.set place arena } := by
  intro other
  by_cases here : other = place
  · subst here
    simp [absent, borrowed]
  · simp [Cells.set_other _ _ here]

theorem prepare_makes (memory : ThreadMemory) (assignment : Assignment)
    (absent : (machine.arenas memory.block).mapping = none) :
    Makes [] machine (memory.prepare assignment machine).2 ∧
      SparesArenas machine (memory.prepare assignment machine).2 := by
  obtain ⟨calls, mappings, arenas⟩ := withdraw_still memory machine
  have spares (arena : Arena) (borrowed : arena.mapping = none) (place : Nat) :
      ((memory.withdraw machine).arenas.set memory.block arena place).mapping =
        (machine.arenas place).mapping := by
    rw [arenas]
    exact set_spares absent borrowed place
  cases room : memory.roomy with
  | true =>
    rw [ThreadMemory.prepare_roomy room]
    exact ⟨.nothing calls mappings, spares _ rfl⟩
  | false =>
    rw [ThreadMemory.prepare_tight room]
    exact ⟨.nothing calls mappings, spares _ rfl⟩

theorem adopt_makes (memory : ThreadMemory) (assignment : Assignment) (sizing : Sizing)
    (reused : Bool) (absent : (machine.arenas memory.block).mapping = none)
    (mapped : memory.region.mapping ∈ machine.mappings) :
    SparesArenas machine (Handle.adopt assignment sizing reused memory machine).2.1 ∧
      if memory.roomy then
        (Handle.adopt assignment sizing reused memory machine).1.mapping? =
            some memory.region.mapping ∧
          (Handle.adopt assignment sizing reused memory machine).2.2.isOk = true ∧
          Makes [] machine (Handle.adopt assignment sizing reused memory machine).2.1
      else
        (Handle.adopt assignment sizing reused memory machine).1.mapping? = none ∧
          (Handle.adopt assignment sizing reused memory machine).2.2.isOk = false ∧
          Makes [.unmap memory.region.mapping] machine
            (Handle.adopt assignment sizing reused memory machine).2.1 := by
  obtain ⟨makes, spares⟩ := prepare_makes memory assignment absent
  cases room : memory.roomy with
  | true =>
    rw [Handle.adopt]
    rw [ThreadMemory.prepare_roomy room] at makes spares ⊢
    exact ⟨spares, rfl, rfl, makes.quietly rfl rfl⟩
  | false =>
    obtain ⟨prepared, failed⟩ :
        ∃ prepared, memory.prepare assignment machine = (.error .outOfMemory, prepared) :=
      ⟨_, ThreadMemory.prepare_tight room⟩
    rw [Handle.adopt]
    rw [failed] at makes spares ⊢
    let reported := prepared.emit (.threadFailed "create" OsError.outOfMemory.message)
    have there : memory.region.mapping ∈ reported.mappings := by
      change memory.region.mapping ∈ prepared.mappings
      rw [makes.mappings]
      exact mapped
    have told : Makes [] machine reported := makes.quietly rfl rfl
    exact ⟨spares, rfl, rfl, told.trans (unmap_makes there)⟩

def Sizing.regionLength (page : Nat) (sizing : Sizing) : Nat := page + sizing.stack + sizing.storage

theorem allocate_makes (sizing : Sizing) (lawful : answers.Lawful machine) :
    (∃ error asked made, ThreadMemory.allocate (sizing.rounded machine.page) answers machine =
        (.error error, asked) ∧ asked.arenas = machine.arenas ∧ Makes made machine asked ∧
        ∀ had, CreateCalls machine.page ((sizing.rounded machine.page).regionLength machine.page)
          had had false made) ∨
      ∃ region mapped, ThreadMemory.allocate (sizing.rounded machine.page) answers machine =
          (.ok ⟨region, false⟩, mapped) ∧ region.Placed ∧
        (sizing.rounded machine.page).regionLength machine.page = region.length ∧
        answers.map region.mapping.length = .ok region.mapping.base ∧
        mapped.arenas = machine.arenas ∧
        Makes [.map region.length (.ok region.base), .protect region.base machine.page none] machine
          mapped := by
  unfold ThreadMemory.allocate Machine.reserveRegion
  cases fits : Region.length? machine.page (sizing.rounded machine.page) with
  | none =>
    exact .inl ⟨.outOfMemory, machine, [], rfl, rfl, .nothing rfl rfl, fun _ => .nothing⟩
  | some length =>
    have whole : (sizing.rounded machine.page).regionLength machine.page = length :=
      Option.some.inj (Option.ite_none_right_eq_some.mp fits).2
    rw [whole]
    dsimp only
    cases answered : answers.map length with
    | error error =>
      exact .inl ⟨error, _, [.map length (.error error)], rfl, rfl, ⟨rfl, rfl, trivial, trivial⟩,
        fun _ => .refused error⟩
    | ok base =>
      have free := lawful length base answered
      have placed := Region.placed_of_length fits free.fits
      have positive : 0 < length := by
        have roomy := placed.roomy
        have sum := placed.whole
        simp only [Sizing.minimumStack] at roomy sum
        omega
      have mapped := map_makes positive free
      generalize reached : (machine.map length (.ok base)).2 = between at mapped
      have asked : machine.map length (.ok base) = (.ok base, between) := by rw [← reached]; rfl
      have arenas : between.arenas = machine.arenas := by rw [← reached]; rfl
      have guarded (failure : Option OsError) :
          Makes [.protect base machine.page failure] between
            (between.protect base machine.page failure) := ⟨rfl, rfl, trivial, trivial⟩
      rw [asked]
      -- Memory whose guard page is refused is taken away again at once.
      cases failure : answers.protect with
      | some error =>
        have there : ⟨base, length⟩ ∈
            (between.protect base machine.page (some error)).mappings := by
          rw [(mapped.trans (guarded (some error))).mappings]
          exact List.mem_cons_self
        have undone := (mapped.trans (guarded (some error))).trans (unmap_makes there)
        exact .inl ⟨error, _, _, rfl, arenas, undone, fun _ => .unguarded base error⟩
      | none =>
        exact .inr ⟨_, _, rfl, placed, rfl, answered, arenas, mapped.trans (guarded none)⟩

/-! Creating -/

/-- An arena that owns memory is kept neither where a control block is nor in memory that the system
maps. -/
structure ArenasClear (held : Holdings) (answers : MemoryAnswers) (machine : Machine) : Prop where
  held : ∀ owner memory, held owner = some memory → (machine.arenas memory.block).mapping = none
  mapped : ∀ mapping : Mapping, answers.map mapping.length = .ok mapping.base →
    ∀ place, mapping.base ≤ place → place < mapping.base + mapping.length →
      (machine.arenas place).mapping = none

theorem ArenasClear.block {held : Holdings} {region : Region} (clear : ArenasClear held answers machine)
    (placed : region.Placed) (mapped : answers.map region.mapping.length = .ok region.mapping.base) :
    (machine.arenas region.block).mapping = none := by
  have inside := Region.block_inside placed
  have filled := Region.storage_inside placed
  apply clear.mapped _ mapped
  · simp only [Region.mapping, Region.stackLow] at *
    omega
  · simp only [Region.mapping, ControlBlock.size] at *
    omega

section

variable {held : Holdings} {owner : Owner} {handle : Handle} {request : CreateRequest}

theorem reuse_makes (request : CreateRequest) (caller : Caller) (answers : MemoryAnswers)
    (absent : (machine.arenas memory.block).mapping = none)
    (mapped : memory.region.mapping ∈ machine.mappings) (has : handle.memory = some memory)
    (room : memory.roomy = true)
    (fits : memory.region.fits (request.sizing.rounded machine.page) = true) :
    (handle.create request caller answers machine).1.mapping? = handle.mapping? ∧
      Makes [] machine (handle.create request caller answers machine).2.1 ∧
      SparesArenas machine (handle.create request caller answers machine).2.1 := by
  cases live : handle.isLive with
  | true =>
    rw [Handle.create_live live]
    exact ⟨rfl, .nothing rfl rfl, fun _ => rfl⟩
  | false =>
    have prepares : Prepares request answers handle machine true memory machine :=
      .reused live has fits
    have adopted := adopt_makes memory (request.assignment caller machine)
      (request.sizing.rounded machine.page) true absent mapped
    rw [← prepares.create caller, if_pos room] at adopted
    obtain ⟨spares, kept, -, makes⟩ := adopted
    have before : handle.mapping? = some memory.region.mapping := by
      rw [Handle.mapping?, has]
      rfl
    exact ⟨kept.trans before.symm, makes, spares⟩

theorem releaseNative_makes
    (mapped : ∀ memory, handle.memory = some memory → memory.region.mapping ∈ machine.mappings) :
    Makes (handle.mapping?.toList.map .unmap) machine (handle.releaseNative machine) ∧
      SparesArenas machine (handle.releaseNative machine) := by
  unfold Handle.mapping? Handle.releaseNative
  cases has : handle.memory with
  | none => exact ⟨.nothing rfl rfl, fun _ => rfl⟩
  | some memory => exact release_makes (mapped memory has)

theorem releaseNative_mapped {mapping : Mapping} (mapped : mapping ∈ machine.mappings)
    (differs : ∀ memory, handle.memory = some memory → mapping ≠ memory.region.mapping) :
    mapping ∈ (handle.releaseNative machine).mappings := by
  unfold Handle.releaseNative
  cases has : handle.memory with
  | none => exact mapped
  | some memory =>
    apply (List.mem_erase_of_ne (differs memory has)).mpr
    rw [(withdraw_still memory machine).2.1]
    exact mapped

theorem Handle.replace_done {memory : ThreadMemory} {mapped : Machine}
    (done : ThreadMemory.allocate sizing answers machine = (.ok memory, mapped)) :
    handle.replace assignment sizing answers machine =
      Handle.adopt assignment sizing false memory (handle.releaseNative mapped) := by
  rw [Handle.replace, done]
  rfl

theorem replace_makes (assignment : Assignment) (sizing : Sizing)
    (clear : ArenasClear held answers machine) (sound : Ownership held machine)
    (mine : held owner = handle.memory) (lawful : answers.Lawful machine) :
    ∃ made, CreateCalls machine.page ((sizing.rounded machine.page).regionLength machine.page)
        handle.mapping?
        (handle.replace assignment (sizing.rounded machine.page) answers machine).1.mapping?
        (handle.replace assignment (sizing.rounded machine.page) answers machine).2.2.isOk made ∧
      Makes made machine
        (handle.replace assignment (sizing.rounded machine.page) answers machine).2.1 ∧
      SparesArenas machine
        (handle.replace assignment (sizing.rounded machine.page) answers machine).2.1 := by
  rcases allocate_makes sizing lawful with
    ⟨error, asked, made, failed, arenas, makes, calls⟩ |
    ⟨region, mapped, done, placed, sized, answered, arenas, makes⟩
  · rw [Handle.replace, failed]
    refine ⟨made, calls _, makes.quietly rfl rfl, ?_⟩
    intro place
    exact congrArg Arena.mapping (congrFun arenas place)
  · rw [Handle.replace_done done, sized]
    have started : SparesArenas machine mapped := fun place =>
      congrArg Arena.mapping (congrFun arenas place)
    have there : region.mapping ∈ mapped.mappings := by
      rw [makes.mappings]
      exact List.mem_cons_self
    have kept {memory : ThreadMemory} (has : handle.memory = some memory) :
        memory.region.mapping ∈ machine.mappings := (sound.housed (mine.trans has)).mapped
    have free := lawful _ _ answered
    -- The old memory is still mapped when the new one is there, so it is another one.
    have old (memory : ThreadMemory) (has : handle.memory = some memory) :
        memory.region.mapping ∈ mapped.mappings := by
      rw [makes.mappings]
      exact List.mem_cons_of_mem _ (kept has)
    have differs (memory : ThreadMemory) (has : handle.memory = some memory) :
        region.mapping ≠ memory.region.mapping :=
      Region.mapping_differs placed (free.apart _ (kept has))
    obtain ⟨gives, spared⟩ := releaseNative_makes old
    have spares := started.trans spared
    have absent := (spares region.block).trans (clear.block placed answered)
    obtain ⟨adopts, outcome⟩ := adopt_makes ⟨region, false⟩ assignment
      (sizing.rounded machine.page) false absent (releaseNative_mapped there differs)
    have given := makes.trans gives
    split at outcome
    · obtain ⟨now, succeeds, adopted⟩ := outcome
      refine ⟨_, ?_, given.trans adopted, spares.trans adopts⟩
      rw [now, succeeds, List.append_nil]
      exact .renewed region.base
    · obtain ⟨gone, fails, adopted⟩ := outcome
      refine ⟨_, ?_, given.trans adopted, spares.trans adopts⟩
      rw [gone, fails]
      exact .lost region.base

theorem unfit_makes (request : CreateRequest) (caller : Caller)
    (clear : ArenasClear held answers machine) (sound : Ownership held machine)
    (mine : held owner = handle.memory) (lawful : answers.Lawful machine)
    (unfit : handle.Unfit (request.sizing.rounded machine.page)) :
    ∃ made, CreateCalls machine.page
        ((request.sizing.rounded machine.page).regionLength machine.page) handle.mapping?
        (handle.create request caller answers machine).1.mapping?
        (handle.create request caller answers machine).2.2.isOk made ∧
      Makes made machine (handle.create request caller answers machine).2.1 ∧
      SparesArenas machine (handle.create request caller answers machine).2.1 := by
  cases live : handle.isLive with
  | true =>
    rw [Handle.create_live live]
    exact ⟨[], .nothing, .nothing rfl rfl, fun _ => rfl⟩
  | false =>
    rw [Handle.create_unfit live unfit]
    exact replace_makes _ request.sizing clear sound mine lawful

/-- Memory is unmapped for a create only when the new memory is mapped and guarded. -/
theorem CreateCalls.order {page length : Nat} {old : Mapping} {now : Option Mapping} {succeeds : Bool}
    {mappings : List Mapping} {made front back : List MemoryCall}
    (calls : CreateCalls page length (some old) now succeeds made)
    (exact : MemoryCall.AllExact made mappings) (mapped : old ∈ mappings)
    (split : made = front ++ .unmap old :: back) :
    ∃ base, front = [.map length (.ok base), .protect base page none] := by
  cases calls with
  | nothing => simp at split
  | refused error => rcases front with _ | ⟨first, front⟩ <;> simp at split
  | unguarded base error =>
    have differs : (⟨base, length⟩ : Mapping) ≠ old := (exact.1.2 old mapped).ne exact.1.1
    rcases front with _ | ⟨first, _ | ⟨second, _ | ⟨third, front⟩⟩⟩ <;> simp at split
    exact absurd split.2.2.1 differs
  | renewed base =>
    rcases front with _ | ⟨first, _ | ⟨second, _ | ⟨third, front⟩⟩⟩ <;> simp at split
    obtain ⟨rfl, rfl, -⟩ := split
    exact ⟨base, rfl⟩
  | lost base =>
    have differs : (⟨base, length⟩ : Mapping) ≠ old := (exact.1.2 old mapped).ne exact.1.1
    rcases front with _ | ⟨first, _ | ⟨second, _ | ⟨third, _ | ⟨fourth, front⟩⟩⟩⟩ <;> simp at split
    · obtain ⟨rfl, rfl, -⟩ := split
      exact ⟨base, rfl⟩
    · exact absurd split.2.2.2.1 differs

/-! Other calls on handles, and the steps of threads -/

theorem start_makes (answers : LaunchAnswers) (handle : Handle) (machine : Machine) :
    Makes [] machine (handle.start answers machine).2.1 ∧
      SparesArenas machine (handle.start answers machine).2.1 := by
  have launched (memory : ThreadMemory) :
      (Handle.launch answers memory machine).2.calls = machine.calls ∧
        (Handle.launch answers memory machine).2.mappings = machine.mappings ∧
        (Handle.launch answers memory machine).2.arenas = machine.arenas := by
    unfold Handle.launch
    dsimp only
    split <;> exact ⟨rfl, rfl, rfl⟩
  unfold Handle.start
  split
  · exact ⟨.nothing rfl rfl, fun _ => rfl⟩
  · rename_i memory has
    obtain ⟨calls, mappings, arenas⟩ := launched memory
    split
    · exact ⟨.nothing rfl rfl, fun _ => rfl⟩
    · dsimp only
      split
      · exact ⟨.nothing calls mappings, fun place => congrArg Arena.mapping (congrFun arenas place)⟩
      · exact ⟨.nothing calls mappings, fun place => congrArg Arena.mapping (congrFun arenas place)⟩

theorem destroy_makes
    (mapped : ∀ memory, handle.memory = some memory → memory.region.mapping ∈ machine.mappings) :
    SparesArenas machine (handle.destroy machine).2.1 ∧
      ((handle.destroy machine).1.mapping? = handle.mapping? ∧
          Makes [] machine (handle.destroy machine).2.1 ∨
        (handle.destroy machine).1.mapping? = none ∧
          Makes (handle.mapping?.toList.map .unmap) machine (handle.destroy machine).2.1) := by
  unfold Handle.destroy
  split
  · exact ⟨fun _ => rfl, .inl ⟨rfl, .nothing rfl rfl⟩⟩
  · cases has : handle.memory with
    | none =>
      refine ⟨fun _ => rfl, .inl ⟨?_, .nothing rfl rfl⟩⟩
      rw [Handle.mapping?, Handle.mapping?, has]
      rfl
    | some memory =>
      have told : Makes [] machine (machine.emit (.threadDestroyed handle.id)) := .nothing rfl rfl
      have there : memory.region.mapping ∈
          (machine.emit (.threadDestroyed handle.id)).mappings := mapped memory has
      obtain ⟨makes, spares⟩ := release_makes there
      refine ⟨spares, .inr ⟨rfl, ?_⟩⟩
      rw [Handle.mapping?, has]
      exact told.trans makes

end

section

variable {caller : Caller} {heap : HeapAnswers}

def AsksHeap (made : List MemoryCall) : Prop := made = [] ∨ ∃ request, made = [.heap request]

theorem AsksHeap.replay {made : List MemoryCall} (asks : AsksHeap made) (mappings : List Mapping) :
    MemoryCall.replay made mappings = mappings := by
  rcases asks with rfl | ⟨request, rfl⟩ <;> rfl

def Modest (before after : Machine) : Prop :=
  (∃ made, AsksHeap made ∧ Makes made before after) ∧ SparesArenas before after

theorem Modest.still (calls : after.calls = machine.calls)
    (mappings : after.mappings = machine.mappings) (arenas : after.arenas = machine.arenas) :
    Modest machine after :=
  ⟨⟨[], .inl rfl, .nothing calls mappings⟩,
    fun place => congrArg Arena.mapping (congrFun arenas place)⟩

theorem heapRequest_modest (request : Heap.Request) :
    Modest machine (machine.heapRequest request heap).2 := by
  have asked {after : Machine} (calls : after.calls = machine.calls ++ [.heap request])
      (mappings : after.mappings = machine.mappings) (arenas : after.arenas = machine.arenas) :
      Modest machine after :=
    ⟨⟨[.heap request], .inr ⟨request, rfl⟩, calls, mappings, trivial, trivial⟩,
      fun place => congrArg Arena.mapping (congrFun arenas place)⟩
  unfold Machine.heapRequest
  split
  · exact .still rfl rfl rfl
  · exact asked rfl rfl rfl
  · exact asked rfl rfl rfl
  · dsimp only
    split <;> exact asked rfl rfl rfl

theorem set_modest {place : Nat} {arena : Arena} {bytes : Memory}
    (same : arena.mapping = (machine.arenas place).mapping) :
    Modest machine { machine with arenas := machine.arenas.set place arena, memory := bytes } := by
  refine ⟨⟨[], .inl rfl, .nothing rfl rfl⟩, ?_⟩
  intro other
  by_cases here : other = place
  · subst here
    simp [same]
  · simp [Cells.set_other _ _ here]

theorem resize_modest (allocator : Allocator) (block : Option Nat) (oldSize newSize : Nat) :
    Modest machine (machine.resize allocator block oldSize newSize heap).2 := by
  unfold Machine.resize
  split
  · exact heapRequest_modest _
  · split
    · exact .still rfl rfl rfl
    · have range := congrArg Arena.mapping
        (Arena.resize_range (machine.arenas allocator.data) block oldSize newSize)
      exact set_modest range

theorem fillUp_modest (allocator : Allocator) (size : Nat) :
    Modest machine (machine.fillUp allocator size).2 := by
  unfold Machine.fillUp
  split
  · exact .still rfl rfl rfl
  · apply set_modest
    unfold Arena.takeAll
    split <;> rfl

theorem setCurrent_modest (context : Nat) : Modest machine (machine.setCurrent caller context).2 := by
  unfold Machine.setCurrent
  split
  · exact .still rfl rfl rfl
  · dsimp only
    split <;> exact .still rfl rfl rfl

theorem runStep_modest {rest next : Routine}
    (stepped : machine.runStep caller heap rest = some (next, after)) : Modest machine after := by
  cases rest with
  | done result => cases stepped
  | setCurrent context continuation =>
    cases stepped
    exact setCurrent_modest context
  | resize allocator block oldSize newSize continuation =>
    cases stepped
    exact resize_modest allocator block oldSize newSize
  | fillUp allocator size continuation =>
    cases stepped
    exact fillUp_modest allocator size
  | share act continuation =>
    obtain ⟨shared, -, same⟩ := Option.map_eq_some_iff.mp stepped
    cases same
    exact .still rfl rfl rfl
  | current | read | write =>
    cases stepped
    exact .still rfl rfl rfl

theorem step_modest {thread : RuntimeThread} {stage : Option Stage}
    (stepped : thread.step heap machine = some (stage, after)) : Modest machine after := by
  rcases thread with ⟨region, caller, current⟩
  cases current with
  | running rest =>
    cases rest with
    | done result =>
      cases stepped
      exact .still rfl rfl rfl
    | _ =>
      rw [RuntimeThread.step] at stepped
      obtain ⟨⟨next, reached⟩, ran, same⟩ := Option.map_eq_some_iff.mp stepped
      cases same
      exact runStep_modest ran
  | _ =>
    cases stepped
    exact .still rfl rfl rfl

end

end

end ArenaThreads
