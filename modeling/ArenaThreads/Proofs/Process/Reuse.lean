import ArenaThreads.Proofs.Process.TwinCalls
import ArenaThreads.Proofs.Process.UniformFunctions
/-!
A handle whose memory is used again, and an empty handle that gets new memory. After the same create
nothing tells them apart but the place of their regions, whatever is done with them from then on.
-/

namespace ArenaThreads

inductive Errand
  | create (request : CreateRequest) (caller : Caller) (answers : MemoryAnswers)
  | start (caller : Caller) (answers : LaunchAnswers)
  | stop (timeout : Option Duration) (now : Instant)
  | destroy
  | run (answers : HeapAnswers)
  | wait (now : Instant) (refusal : Option OsError)
  | wake
  | rouse (outcome : Except OsError Unit)

namespace Errand

def move (name block : Nat) : Errand → Move
  | create request caller answers => .call name (.create request caller answers)
  | start caller answers => .call name (.start caller answers)
  | stop timeout now => .call name (.stop timeout now)
  | destroy => .call name .destroy
  | run answers => .thread block answers
  | wait now refusal => .join name now refusal
  | wake => .wake block
  | rouse outcome => .rouse name outcome

/-- The kernel does the same to both: what it may answer the one it may answer the other, heap blocks
are outside of both regions, and a wake comes for both or for neither. A create is one that fails. -/
def Even (setting : Setting) (name counterpart : Nat) (first second : System) (errand : Errand) :
    Prop :=
  (errand.move name setting.region.block).Lawful first ∧
    (errand.move counterpart setting.other.block).Lawful second ∧
    match errand with
    | create request caller answers =>
      (first.step (.call name (.create request caller answers))).2 ≠ .returned
    | run answers => ∀ size place, answers size = some place → setting.Clear place size
    | wake => setting.region.block ∈ first.wakes ↔ setting.other.block ∈ second.wakes
    | _ => True

def AllEven (setting : Setting) (name counterpart : Nat) : List Errand → System → System → Prop
  | [], _, _ => True
  | errand :: rest, first, second => errand.Even setting name counterpart first second ∧
    AllEven setting name counterpart rest (first.step (errand.move name setting.region.block)).1
      (second.step (errand.move counterpart setting.other.block)).1

end Errand

def System.shows (name : Nat) : List Move → System → List (CallResult × View)
  | [], _ => []
  | move :: rest, system =>
    ((system.step move).2, ((system.step move).1.handles name).view (system.step move).1.machine) ::
      shows name rest (system.step move).1

structure View.Corresponds (setting : Setting) (view other : View) : Prop where
  id : other.id = view.id
  function : other.function = view.function
  argument : other.argument = view.argument
  state : other.state = view.state
  result : setting.SameWord view.result other.result
  storage : Option.Rel (fun one both => both.2 = one.2 ∧
    Shift setting.region.base setting.other.base one.1 both.1) view.storage other.storage
  readable : Option.Rel (fun one both => both.length = one.length) view.readable other.readable
  threadContext : Option.Rel (Shift setting.region.base setting.other.base) view.threadContext
    other.threadContext
  startingContext : other.startingContext = view.startingContext
  stackSize : other.stackSize = view.stackSize

def ControlBlock.moved (region other : Region) (block : ControlBlock) : ControlBlock :=
  { block with
    storage := region.translate other block.storage
    context := region.translate other block.context
    stackLow := region.translate other block.stackLow
    stackHigh := region.translate other block.stackHigh }

def Context.moved (region other : Region) (context : Context) : Context :=
  ⟨{ context.allocator with data := region.translate other context.allocator.data }⟩

/-- A handle and its twin, their control blocks, arenas and context copies are the same up to the way
from one region to the other. -/
structure Relocated (setting : Setting) (name counterpart : Nat) (first second : System) : Prop where
  handle : second.handles counterpart = (first.handles name).moved setting.other
  block : (second.machine.blocks setting.other.block).detached =
    (first.machine.blocks setting.region.block).detached.moved setting.region setting.other
  used : (second.machine.arenas setting.other.block).used =
    (first.machine.arenas setting.region.block).used
  remaining : (second.machine.arenas setting.other.block).remaining =
    (first.machine.arenas setting.region.block).remaining
  capacity : (second.machine.arenas setting.other.block).capacity =
    (first.machine.arenas setting.region.block).capacity
  copy : second.machine.contextAt setting.other.copy =
    (first.machine.contextAt setting.region.copy).moved setting.region setting.other

/-- One create in two processes: on a handle with memory of its sizes, and on an empty handle for
which the system maps memory. Outside of the two regions both find the same. -/
structure Reuse (setting : Setting) (name counterpart : Nat) (request : CreateRequest)
    (caller : Caller) (answers : MemoryAnswers) (first second : System) : Prop where
  idle : (first.handles name).isLive = false
  has : (first.handles name).memory.map ThreadMemory.region = some setting.region
  fits : setting.region.fits (request.sizing.rounded first.machine.page) = true
  empty : second.handles counterpart = .empty
  mapped : answers.map setting.region.length = .ok setting.other.base
  guarded : answers.protect = none
  page : second.machine.page = first.machine.page
  known : second.machine.cloneMissing = first.machine.cloneMissing
  shared : setting.SameShared first.machine.shared second.machine.shared
  context : request.assignment caller second.machine = request.assignment caller first.machine
  bytes : ∀ address, ¬setting.region.Holds address → ¬setting.other.Holds address →
    second.machine.memory address = first.machine.memory address
  moves : setting.region.Moved setting.other
  word : setting.region.base + setting.region.length < wordLimit
  words : setting.other.base + setting.other.length < wordLimit
  guests : ∀ {place range}, setting.guests place = some range →
    (place ≠ 0 ∧ place ≠ setting.region.block ∧ place ≠ setting.other.block ∧ 0 < range.base ∧
      setting.Clear range.base range.length) ∧
    Arena.Level 0 0 range.base (first.machine.arenas place) (second.machine.arenas place) ∧
      (first.machine.arenas place).limit = range.base + range.length

section

variable {setting : Setting} {body : Routine} {name counterpart : Nat} {first second : System}

/-! What twins can be asked -/

theorem View.corresponds_nothing {handle : Handle} {one both : Machine}
    (gone : handle.memory = none) :
    View.Corresponds setting (handle.view one) ((handle.moved setting.other).view both) := by
  have nothing (machine : Machine) : handle.block? machine = none := by
    rw [Handle.block?, gone]
    rfl
  have moved (machine : Machine) : (handle.moved setting.other).block? machine = none := by
    rw [Handle.block?, Handle.moved, gone]
    rfl
  refine ⟨rfl, rfl, rfl, ?_, ?_, ?_, ?_, ?_, ?_, ?_⟩
  · simp [Handle.view, Handle.state?, nothing, moved]
  · left
    simp [Handle.view, Handle.result, nothing, moved]
  · simp [Handle.view, Handle.storage?, nothing, moved]
  · simp [Handle.view, Handle.readableStorage?, Handle.storage?, nothing, moved]
  · simp [Handle.view, Handle.threadContext?, nothing, moved]
  · simp [Handle.view, Handle.startingContext?, Handle.moved, gone]
  · simp [Handle.view, Handle.stackSize, nothing, moved]

theorem View.corresponds_region {handle : Handle} {one both : Machine} (fair : setting.Fair)
    (has : handle.memory = some ⟨setting.region, true⟩)
    (described : (one.blocks setting.region.block).Describes setting.region)
    (describes : (both.blocks setting.other.block).Describes setting.other)
    (twin : ControlBlock.Twin setting body (one.blocks setting.region.block)
      (both.blocks setting.other.block)) :
    View.Corresponds setting (handle.view one) ((handle.moved setting.other).view both) := by
  have shown (machine : Machine) :
      handle.block? machine = some (machine.blocks setting.region.block) := by
    rw [Handle.block?, has]
    rfl
  have moved (machine : Machine) : (handle.moved setting.other).block? machine =
      some (machine.blocks setting.other.block) := by
    rw [Handle.block?, Handle.moved, has]
    rfl
  have start : Shift setting.region.base setting.other.base setting.region.storageStart
      setting.other.storageStart := fair.moves.storageStart
  refine ⟨rfl, rfl, rfl, ?_, ?_, ?_, ?_, ?_, ?_, ?_⟩
  · simp only [Handle.view, Handle.state?, shown, moved, Option.map_some, twin.state]
  · simp only [Handle.view, Handle.result, shown, moved, Option.map_some, Option.getD_some,
      Handle.moved_joined]
    split
    · exact twin.result
    · exact .inl rfl
  · simp only [Handle.view, Handle.storage?, shown, moved, Option.map_some, described.storage,
      describes.storage, described.storageSize, describes.storageSize]
    exact .some ⟨fair.moves.storage, start⟩
  · simp only [Handle.view, Handle.readableStorage?, Handle.storage?, shown, moved,
      Option.map_some, described.storageSize, describes.storageSize, Handle.moved_isLive]
    split
    · exact .none
    · refine .some ?_
      rw [Memory.length_read, Memory.length_read]
      exact fair.moves.storage
  · simp only [Handle.view, Handle.threadContext?, shown, moved, Option.map_some,
      described.context, describes.context]
    exact .some fair.moves.copy
  · simp [Handle.view, Handle.startingContext?, Handle.moved, has]
  · simp only [Handle.view, Handle.stackSize, shown, moved, Option.map_some, Option.getD_some,
      described.size, describes.size]
    exact fair.moves.usable fair.placed

theorem Twins.view (twins : Twins setting body name counterpart first second) (sound : Sound first)
    (sounds : Sound second) (fair : setting.Fair) :
    View.Corresponds setting ((first.handles name).view first.machine)
      ((second.handles counterpart).view second.machine) := by
  rw [twins.handle]
  cases twins.lodged with
  | nothing gone => exact View.corresponds_nothing gone
  | region has block =>
    have mine : first.held (.handle name) = some ⟨setting.region, true⟩ := has
    have theirs : second.held (.handle counterpart) = some ⟨setting.other, true⟩ := twins.has has
    exact View.corresponds_region fair has (sound.ownership.housed mine).described
      (sounds.ownership.housed theirs).described block

/-! Errands -/

theorem Twins.errand (twins : Twins setting body name counterpart first second)
    (sound : Sound first) (sounds : Sound second) (fair : setting.Fair)
    (uniform : body.Matches setting body setting.beginning)
    (paged : Pages.Real first.machine.page) {errand : Errand}
    (even : errand.Even setting name counterpart first second) :
    Twins.Agree setting body name counterpart
      (first.step (errand.move name setting.region.block))
      (second.step (errand.move counterpart setting.other.block)) := by
  have calls (call : Call) (agree : first.joining name = none →
      Twins.Agree setting body name counterpart (first.call name call)
        (second.call counterpart call)) :
      Twins.Agree setting body name counterpart (first.step (.call name call))
        (second.step (.call counterpart call)) := by
    rw [System.step, System.step, twins.joining]
    cases waiting : first.joining name with
    | none => exact agree waiting
    | some joining => exact ⟨rfl, twins⟩
  obtain ⟨lawful, otherLawful, even⟩ := even
  cases errand with
  | create request caller answers =>
    refine calls _ fun free => twins.create sound sounds fair paged lawful otherLawful ?_
    dsimp only at even
    rwa [System.step_call free] at even
  | start caller answers => exact calls _ fun _ => twins.start sound sounds caller answers
  | stop timeout now => exact calls _ fun _ => twins.stop timeout now
  | destroy => exact calls _ fun _ => twins.destroy sound sounds
  | run answers =>
    dsimp only [Errand.move, System.step]
    exact ⟨rfl, twins.run sound sounds fair uniform even⟩
  | wait now refusal => exact twins.wait now refusal
  | wake =>
    dsimp only [Errand.move, System.step]
    exact ⟨rfl, twins.wake even⟩
  | rouse outcome => exact ⟨rfl, twins.rouse outcome⟩

theorem Twins.shows (twins : Twins setting body name counterpart first second)
    (sound : Sound first) (sounds : Sound second) (fair : setting.Fair)
    (uniform : body.Matches setting body setting.beginning)
    (paged : Pages.Real first.machine.page) {errands : List Errand}
    (even : Errand.AllEven setting name counterpart errands first second) :
    List.Forall₂ (fun one both => both.1 = one.1 ∧ one.2.Corresponds setting both.2)
      (first.shows name (errands.map (Errand.move name setting.region.block)))
      (second.shows counterpart (errands.map (Errand.move counterpart setting.other.block))) := by
  induction errands generalizing first second with
  | nil => exact .nil
  | cons errand rest ih =>
    obtain ⟨now, later⟩ := even
    obtain ⟨same, after⟩ := twins.errand sound sounds fair uniform paged now
    have effect := step_effect sound now.1
    have next := step_sound sound now.1
    have otherNext := step_sound sounds now.2.1
    rw [← effect.page] at paged
    exact .cons ⟨same, after.view next otherNext fair⟩ (ih after next otherNext paged later)

/-! One create in two processes -/

variable {request : CreateRequest} {caller : Caller} {answers further : MemoryAnswers}
  {assignment : Assignment} {one both after others : Machine}

namespace Reuse

theorem owns (reuse : Reuse setting name counterpart request caller further first second)
    (sound : Sound first) : (first.handles name).memory = some ⟨setting.region, true⟩ := by
  obtain ⟨⟨region, registered⟩, has, rfl⟩ := Option.map_eq_some_iff.mp reuse.has
  have mine : first.held (.handle name) = some ⟨setting.region, registered⟩ := has
  obtain rfl : registered = true := (sound.ownership.housed mine).registered
  exact has

theorem free (reuse : Reuse setting name counterpart request caller further first second)
    (sound : Sound first) : first.joining name = none := sound.free_of_idle reuse.idle

theorem frees (reuse : Reuse setting name counterpart request caller further first second)
    (sounds : Sound second) : second.joining counterpart = none := by
  refine sounds.free_of_idle ?_
  rw [reuse.empty]
  rfl

theorem fair (reuse : Reuse setting name counterpart request caller further first second)
    (sound : Sound first) (paged : Pages.Real first.machine.page) : setting.Fair := by
  have mine : first.held (.handle name) = some ⟨setting.region, true⟩ := reuse.owns sound
  have placed := (sound.ownership.housed mine).placed
  have moves := reuse.moves
  refine ⟨moves, placed, ⟨?_, ?_, reuse.words.le⟩, ?_, reuse.word, reuse.words, ?_⟩
  · rw [moves.length, moves.guard, moves.stack, moves.storage]
    exact placed.whole
  · rw [moves.stack]
    exact placed.roomy
  · exact ThreadMemory.roomy_bound (roomy_of_fits paged placed reuse.fits)
  · intro place range known
    exact (reuse.guests known).1

end Reuse

theorem Setting.Fair.level (fair : setting.Fair) :
    Arena.Level setting.region.base setting.other.base (setting.region.copy + Context.size)
      (setting.region.arena.take Context.size) (setting.other.arena.take Context.size) := by
  have start := fair.moves.storageStart
  have storage := fair.moves.storage
  have padding := fair.moves.padding
  have filled := Region.storage_inside fair.placed
  have fills := Region.storage_inside fair.others
  have aligned := fair.moves.aligned
  have word := fair.word
  have words := fair.words
  have room := fair.room
  have above : setting.region.base ≤ setting.region.storageStart := by
    simp only [Region.storageStart]
    omega
  refine ⟨?_, ?_, ?_, ?_, ?_, ⟨?_, ?_, ?_⟩, ?_⟩
  · simp only [Shift, Arena.take, Region.arena, Arena.borrowed]
    omega
  · simp only [Shift, Arena.take, Region.arena, Arena.borrowed]
    omega
  · simp only [ControlBlock.alignment, Arena.alignment] at *
    omega
  · simp only [Context.size]
    omega
  · simp only [Context.size, Region.copy] at *
    omega
  · exact Nat.le_refl _
  · exact room
  · exact filled.trans_lt word
  · exact fills.trans_lt words

theorem Refreshed.poised (fair : setting.Fair)
    (refreshed : Refreshed assignment setting.region one after)
    (refreshes : Refreshed assignment setting.other both others)
    (shared : setting.SameShared one.shared both.shared)
    (bytes : ∀ address, ¬setting.region.Holds address → ¬setting.other.Holds address →
      both.memory address = one.memory address)
    (guests : ∀ {place range}, setting.guests place = some range →
      Arena.Level 0 0 range.base (one.arenas place) (both.arenas place) ∧
        (one.arenas place).limit = range.base + range.length) :
    setting.Poised after others := by
  refine ⟨⟨?_, ?_⟩, ?_⟩
  · rw [refreshed.shared, refreshes.shared]
    exact shared
  · intro place counterpart base further floor ceiling venue
    rw [refreshed.arenas, refreshes.arenas]
    cases venue with
    | own =>
      rw [Cells.set_same, Cells.set_same]
      exact ⟨fair.level, rfl⟩
    | guest known =>
      obtain ⟨-, apart, aparts, -⟩ := fair.guests known
      rw [Cells.set_other _ _ apart, Cells.set_other _ _ aparts]
      exact guests known
  · have known : Memory.Meets setting.region setting.other
        (fun address one other => setting.region.Holds address ∨ one = other)
        one.memory both.memory := by
      intro address common
      by_cases inside : setting.region.Holds address
      · exact .inl inside
      · rw [Region.translate_outside inside]
        exact .inr (bytes address inside (common.resolve_left inside)).symm
    rw [refreshed.bytes, refreshes.bytes]
    exact known.write fair.moves fair.copied _ _

theorem Setting.Fair.block_moved (fair : setting.Fair) :
    setting.region.translate setting.other setting.region.block = setting.other.block := by
  have inside := Region.block_inside fair.placed
  have filled := Region.storage_inside fair.placed
  refine Region.translate_of_moved ⟨?_, ?_⟩ (fair.moves.block fair.placed)
  · simp only [Region.stackLow] at inside
    omega
  · simp only [ControlBlock.size] at inside
    omega

theorem readyBlock_moved (fair : setting.Fair) (assignment : Assignment) :
    ThreadMemory.readyBlock assignment ⟨setting.other, true⟩ =
      (ThreadMemory.readyBlock assignment ⟨setting.region, true⟩).moved setting.region
        setting.other := by
  have low := fair.moves.stackLow
  have start := fair.moves.storageStart
  have copy := fair.moves.copy
  have usable := fair.moves.usable fair.placed
  have inside := Region.block_inside fair.placed
  have filled := Region.storage_inside fair.placed
  have room := fair.room
  have above : setting.region.base ≤ setting.region.stackLow := by
    simp only [Region.stackLow]
    omega
  have within {address moved : Nat} (low : setting.region.stackLow ≤ address)
      (high : address < setting.region.base + setting.region.length)
      (same : moved + setting.region.base = address + setting.other.base) :
      setting.region.translate setting.other address = moved :=
    Region.translate_of_moved ⟨by omega, high⟩ same
  have begins : setting.region.storageStart ≤ setting.region.copy := Nat.le_add_right ..
  simp only [ControlBlock.size, Context.size] at *
  simp only [ThreadMemory.readyBlock, ThreadMemory.freshBlock, ControlBlock.moved,
    ThreadMemory.block, ControlBlock.mk.injEq, true_and, and_true, fair.moves.storage, usable]
  refine ⟨?_, ?_, ?_, ?_⟩
  · exact (within (by omega) (by omega) start).symm
  · exact (within (by omega) (by omega) copy).symm
  · exact (within (by omega) (by omega) low).symm
  · exact fair.block_moved.symm

theorem Renewed.relocated {others further : List Nat} (fair : setting.Fair)
    (renewed : Renewed assignment setting.region name others first)
    (renews : Renewed assignment setting.other counterpart further second) :
    Relocated setting name counterpart first second := by
  have start := fair.moves.storageStart
  have storage := fair.moves.storage
  have padding := fair.moves.padding
  refine ⟨?_, ?_, ?_, ?_, ?_, ?_⟩
  · rw [renewed.handle, renews.handle]
    rfl
  · rw [renewed.block, renews.block]
    exact readyBlock_moved fair assignment
  · rw [renewed.arena, renews.arena]
    simp only [Arena.used, Arena.take, Region.arena, Arena.borrowed]
    omega
  · rw [renewed.arena, renews.arena]
    simp only [Arena.remaining, Arena.take, Region.arena, Arena.borrowed]
    omega
  · rw [renewed.arena, renews.arena]
    simp only [Arena.capacity, Arena.take, Region.arena, Arena.borrowed]
    omega
  · rw [renewed.copy, renews.copy, Context.moved]
    dsimp only [Allocator.arena]
    rw [fair.block_moved]

namespace Reuse

theorem made (reuse : Reuse setting name counterpart request caller further first second)
    (sound : Sound first) (sounds : Sound second) (paged : Pages.Real first.machine.page)
    (guarded : first.Guarded) (lawful : further.Lawful second.machine) :
    ∃ one both,
      first.create name request caller answers =
          (first.withHandle name
            (.ofAssignment (request.assignment caller first.machine) ⟨setting.region, true⟩) one,
            .returned) ∧
        second.create counterpart request caller further =
          (second.withHandle counterpart
            (.ofAssignment (request.assignment caller first.machine) ⟨setting.other, true⟩) both,
            .returned) ∧
        Refreshed (request.assignment caller first.machine) setting.region first.machine one ∧
        Refreshed (request.assignment caller first.machine) setting.other
          ((second.machine.map setting.other.length (.ok setting.other.base)).2.protect
            setting.other.base second.machine.page none) both := by
  have fair := reuse.fair sound paged
  have owns := reuse.owns sound
  have guard := guarded (.handle name) _ owns
  obtain ⟨one, done, refreshed⟩ :=
    @create_reuses _ _ request caller answers _ sound paged reuse.idle owns reuse.fits
  have short : setting.other.length < wordLimit := by
    have words := fair.words
    omega
  obtain ⟨both, maps, refreshes⟩ := @create_maps _ _ request caller further setting.other sounds
    (by rw [reuse.page]; exact paged) reuse.empty fair.others short
    (by rw [Region.fits, fair.moves.stack, fair.moves.storage, reuse.page]; exact reuse.fits)
    (by rw [fair.moves.guard, reuse.page]; exact guard)
    (by rw [fair.moves.length]; exact reuse.mapped) reuse.guarded lawful
  rw [reuse.context] at maps refreshes
  exact ⟨one, both, done, maps, refreshed, refreshes⟩

theorem twins (reuse : Reuse setting name counterpart request caller further first second)
    (sound : Sound first) (sounds : Sound second) (fair : setting.Fair)
    (absent : first.threadAt? setting.region.block = none)
    (alone : second.threadAt? setting.other.block = none)
    (refreshed : Refreshed assignment setting.region first.machine one)
    (refreshes : Refreshed assignment setting.other
      ((second.machine.map setting.other.length (.ok setting.other.base)).2.protect
        setting.other.base second.machine.page none) both) :
    Twins setting (assignment.function.body assignment.argument) name counterpart
      (first.withHandle name (.ofAssignment assignment ⟨setting.region, true⟩) one)
      (second.withHandle counterpart (.ofAssignment assignment ⟨setting.other, true⟩) both) := by
  have ready : (one.blocks setting.region.block).detached = (ThreadMemory.readyBlock assignment
      ⟨setting.region, true⟩).detached := refreshed.block
  have readies : (both.blocks setting.other.block).detached = (ThreadMemory.readyBlock assignment
      ⟨setting.other, true⟩).detached := refreshes.block
  obtain ⟨function, argument, result, word, state⟩ := ControlBlock.detached_fields ready
  obtain ⟨functions, arguments, results, words, states⟩ := ControlBlock.detached_fields readies
  have poised : setting.Poised one both := by
    refine refreshed.poised fair refreshes reuse.shared ?_ fun known => (reuse.guests known).2
    intro address outside further
    refine (Memory.write_outside _ _ ?_).trans (reuse.bytes address outside further)
    simp only [Region.Holds] at further
    omega
  refine ⟨?_, ?_, ?_, ?_, ?_, ?_⟩
  · exact refreshes.page.trans (reuse.page.trans refreshed.page.symm)
  · exact refreshes.known.trans (reuse.known.trans refreshed.known.symm)
  · simp only [System.withHandle, Cells.set_same]
    rfl
  · exact (reuse.frees sounds).trans (reuse.free sound).symm
  · intro joining waiting
    cases (reuse.free sound).symm.trans waiting
  · simp only [System.withHandle, Cells.set_same]
    have crew : Option.Rel (fun thread fellow : RuntimeThread =>
        thread.stage.Matches setting one both fellow.stage)
        (first.threadAt? setting.region.block) (second.threadAt? setting.other.block) := by
      rw [absent, alone]
      exact .none
    refine .region rfl ⟨?_, ?_, ?_, ?_, ?_⟩ crew fun _ => poised
    · rw [ControlBlock.routine, function, argument]
      rfl
    · rw [ControlBlock.routine, functions, arguments]
      rfl
    · exact words.trans word.symm
    · exact states.trans state.symm
    · exact .inl (results.trans result.symm)

end Reuse

end

structure ReuseAgrees (setting : Setting) (assignment : Assignment) (name counterpart : Nat)
    (first second : System) (one both : System × CallResult) : Prop where
  returned : one.2 = .returned ∧ both.2 = .returned
  renewed : Renewed assignment setting.region name
    ((first.machine.registry.members first.machine.blocks).erase setting.region.block) one.1
  renews : Renewed assignment setting.other counterpart
    (second.machine.registry.members second.machine.blocks) both.1
  relocated : Relocated setting name counterpart one.1 both.1
  view : View.Corresponds setting ((one.1.handles name).view one.1.machine)
    ((both.1.handles counterpart).view both.1.machine)
  uniform : assignment.function.Uniform assignment.argument →
    (assignment.function.body assignment.argument).Matches setting
      (assignment.function.body assignment.argument) setting.beginning
  later : (assignment.function.body assignment.argument).Matches setting
      (assignment.function.body assignment.argument) setting.beginning →
    ∀ errands, Errand.AllEven setting name counterpart errands one.1 both.1 →
      List.Forall₂ (fun one both => both.1 = one.1 ∧ one.2.Corresponds setting both.2)
        (one.1.shows name (errands.map (Errand.move name setting.region.block)))
        (both.1.shows counterpart (errands.map (Errand.move counterpart setting.other.block)))

/-- However two processes have come to where they are: a create on a handle that is not live and whose
memory fits, and the same create on an empty handle, return and leave the same up to the way from the
one region to the other. From then on both handles give the same answers to the same calls, as long as
the kernel does the same and the function does not depend on where it is or on bytes that it has not
written. -/
theorem reuse_agrees {setting : Setting} {start origin : System} {moves others : List Move}
    {name counterpart : Nat} {request : CreateRequest} {caller : Caller}
    {answers further : MemoryAnswers} (fresh : start.Fresh) (afresh : origin.Fresh)
    (paged : Pages.Real start.machine.page) (lawful : System.LawfulRun moves start)
    (otherLawful : System.LawfulRun others origin)
    (answered : answers.Lawful (start.run moves).machine)
    (otherAnswered : further.Lawful (origin.run others).machine)
    (reuse : Reuse setting name counterpart request caller further (start.run moves)
      (origin.run others)) :
    ReuseAgrees setting (request.assignment caller (start.run moves).machine) name counterpart
      (start.run moves) (origin.run others)
      ((start.run moves).step (.call name (.create request caller answers)))
      ((origin.run others).step (.call counterpart (.create request caller further))) := by
  have sound := run_sound (.fresh fresh) lawful
  have sounds := run_sound (.fresh afresh) otherLawful
  have pages := run_paged (.fresh fresh) paged lawful
  have guarded := run_guarded fresh lawful
  generalize start.run moves = first at sound pages guarded answered reuse ⊢
  generalize origin.run others = second at sounds otherAnswered reuse ⊢
  have fair := reuse.fair sound pages
  have owns := reuse.owns sound
  have mapped := reuse.mapped
  rw [← fair.moves.length] at mapped
  have free := otherAnswered _ _ mapped
  have absent := sound.idle_absent reuse.idle owns
  simp only [ThreadMemory.block] at absent
  have alone := sounds.free_absent fair.others free
  obtain ⟨one, both, done, maps, refreshed, refreshes⟩ :=
    @Reuse.made _ _ _ _ _ _ _ answers _ reuse sound sounds pages guarded otherAnswered
  have next := @step_sound _ (.call name (.create request caller answers)) sound answered
  have otherNext :=
    @step_sound _ (.call counterpart (.create request caller further)) sounds otherAnswered
  have after := @step_effect _ (.call name (.create request caller answers)) sound answered
  have page := after.page
  rw [System.step_call (reuse.free sound)] at next page ⊢
  rw [System.step_call (reuse.frees sounds)] at otherNext ⊢
  simp only [System.call] at next otherNext page ⊢
  rw [done] at next page ⊢
  rw [maps] at otherNext ⊢
  have twins := reuse.twins sound sounds fair absent alone refreshed refreshes
  have renewed := refreshed.renewed fair.placed absent name
  have renews := refreshes.renewed fair.others alone counterpart
  -- No registry lists the new region yet: there is nothing to take out.
  have only := List.erase_of_not_mem (sounds.free_unlisted fair.others free)
  change Renewed _ _ _ ((second.machine.registry.members second.machine.blocks).erase _) _ at renews
  rw [only] at renews
  refine ⟨⟨rfl, rfl⟩, renewed, renews, renewed.relocated fair renews,
    twins.view next otherNext fair, fun uniform => uniform.matches fair, ?_⟩
  intro uniform errands even
  rw [← page] at pages
  exact twins.shows next otherNext fair uniform pages even

def System.joinedOnce : List Move :=
  [.createAt 0 65536 7, .startAs 0 5, .thread 331520 fun _ => none, .thread 331520 fun _ => none,
    .thread 331520 fun _ => none, .thread 331520 fun _ => none, .thread 331520 fun _ => none,
    .thread 331520 fun _ => none, .call 0 (.stop none ⟨0⟩), .join 0 ⟨0⟩ none, .join 0 ⟨0⟩ none]

def Setting.farther : Setting where
  region := ⟨65536, 331776, 4096, 262144, 65536⟩
  other := ⟨1048576, 331776, 4096, 262144, 65536⟩

def CreateRequest.sums : CreateRequest := ⟨.sum, 3, some .standard, {}⟩

def Errand.oneLife : List Errand :=
  [.start ⟨0, 0⟩ ⟨9, 9⟩, .create .sums ⟨0, 0⟩ (.upTo 2097152 1048576), .run fun _ => none,
    .run fun _ => none, .run fun _ => none, .run fun _ => none, .run fun _ => none,
    .run fun _ => none, .run fun _ => none, .run fun _ => none, .run fun _ => none,
    .stop none ⟨0⟩, .wait ⟨0⟩ none, .wait ⟨0⟩ none, .destroy]

theorem reuse_agrees_joined :
    let system := System.run System.joinedOnce {}
    let answers := MemoryAnswers.upTo 1048576 1048576
    let one := system.step (.call 0 (.create .sums ⟨0, 0⟩ answers))
    let both := system.step (.call 1 (.create .sums ⟨0, 0⟩ answers))
    Reuse .farther 0 1 .sums ⟨0, 0⟩ answers system system ∧
      ReuseAgrees .farther (CreateRequest.sums.assignment ⟨0, 0⟩ system.machine) 0 1 system system
        one both ∧
      List.Forall₂ (fun one both => both.1 = one.1 ∧ one.2.Corresponds .farther both.2)
        (one.1.shows 0 (Errand.oneLife.map (Errand.move 0 331520)))
        (both.1.shows 1 (Errand.oneLife.map (Errand.move 1 1314560))) := by
  intro system answers one both
  have fresh : System.Fresh {} := ⟨fun _ => rfl, rfl, rfl, fun _ => rfl, rfl, rfl⟩
  have paged : Pages.Real 4096 := ⟨12, by decide, by decide, rfl⟩
  have first : (MemoryAnswers.upTo 65536 (2 ^ 30)).Lawful {} :=
    MemoryAnswers.upTo_lawful (by decide) (by decide) nofun
  have lawful : System.LawfulRun System.joinedOnce {} :=
    ⟨first, ⟨by decide, by decide⟩, System.lawful_of_any (by simp [Move.Lawful])⟩
  have mapped : system.machine.mappings = [⟨65536, 331776⟩] := rfl
  have answered : answers.Lawful system.machine := by
    refine MemoryAnswers.upTo_lawful (by decide) (by decide) ?_
    intro other found
    obtain rfl := List.mem_singleton.mp (mapped ▸ found)
    exact .inr (by decide)
  have reuse : Reuse .farther 0 1 .sums ⟨0, 0⟩ answers system system := by
    refine ⟨by decide +kernel, by decide +kernel, by decide +kernel, rfl, rfl, rfl, rfl, rfl,
      ?_, rfl, fun _ _ _ => rfl, ⟨rfl, rfl⟩, by decide, by decide, nofun⟩
    exact ⟨rfl, rfl, fun _ => .nil⟩
  have agrees := reuse_agrees fresh fresh paged lawful lawful answered answered reuse
  have uniform := agrees.uniform (.sum (by decide : 8 * 3 < wordLimit))
  have even : Errand.AllEven .farther 0 1 Errand.oneLife one.1 both.1 := by
    have ran : ∀ size place, (fun _ => none : HeapAnswers) size = some place →
        Setting.farther.Clear place size := nofun
    have launched : (⟨9, 9⟩ : LaunchAnswers).Lawful := ⟨by decide, by decide⟩
    have there : (one.1.step (Errand.move 0 Setting.farther.region.block
        (.start ⟨0, 0⟩ ⟨9, 9⟩))).1.machine.mappings = [⟨65536, 331776⟩] := by decide +kernel
    have theres : (both.1.step (Errand.move 1 Setting.farther.other.block
        (.start ⟨0, 0⟩ ⟨9, 9⟩))).1.machine.mappings =
          [⟨1048576, 331776⟩, ⟨65536, 331776⟩] := by decide +kernel
    have busy : ((one.1.step (Errand.move 0 Setting.farther.region.block
        (.start ⟨0, 0⟩ ⟨9, 9⟩))).1.step
          (.call 0 (.create .sums ⟨0, 0⟩ (.upTo 2097152 1048576)))).2 ≠ .returned := by
      decide +kernel
    clear_value one both
    refine ⟨⟨launched, launched, trivial⟩, ⟨?_, ?_, busy⟩, ⟨trivial, trivial, ran⟩,
      ⟨trivial, trivial, ran⟩, ⟨trivial, trivial, ran⟩, ⟨trivial, trivial, ran⟩,
      ⟨trivial, trivial, ran⟩, ⟨trivial, trivial, ran⟩, ⟨trivial, trivial, ran⟩,
      ⟨trivial, trivial, ran⟩, ⟨trivial, trivial, ran⟩, ⟨trivial, trivial, trivial⟩,
      ⟨trivial, trivial, trivial⟩, ⟨trivial, trivial, trivial⟩, ⟨trivial, trivial, trivial⟩, trivial⟩
    · refine MemoryAnswers.upTo_lawful (by decide) (by decide) ?_
      intro other found
      rw [there] at found
      obtain rfl := List.mem_singleton.mp found
      exact .inr (by decide)
    · refine MemoryAnswers.upTo_lawful (by decide) (by decide) ?_
      intro other found
      rw [theres] at found
      rcases List.mem_pair.mp found with rfl | rfl
      · exact .inr (by decide)
      · exact .inr (by decide)
  exact ⟨reuse, agrees, agrees.later uniform Errand.oneLife even⟩

end ArenaThreads
