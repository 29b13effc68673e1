import ArenaThreads.Proofs.Process.Renewal
import ArenaThreads.Proofs.Process.Twins
/-!
Two handles whose threads run the same function, in two regions of one layout. Whatever is done with
the one and with the other, as long as the kernel answers the same, they give the same answers.
-/

namespace ArenaThreads

def Handle.moved (other : Region) (handle : Handle) : Handle :=
  { handle with memory := handle.memory.map fun memory => ⟨other, memory.registered⟩ }

/-- What a handle and its twin have: nothing, or a region each, with threads that have done the
same. -/
inductive Lodged (setting : Setting) (body : Routine) (handle : Handle) (first second : Machine)
    (thread fellow : Option RuntimeThread) : Prop
  | nothing (gone : handle.memory = none) (absent : thread = none) (alone : fellow = none)
  | region (has : handle.memory = some ⟨setting.region, true⟩)
    (block : ControlBlock.Twin setting body (first.blocks setting.region.block)
      (second.blocks setting.other.block))
    (stages : Option.Rel (fun one other => one.stage.Matches setting first second other.stage)
      thread fellow)
    (poised : handle.launched = false → setting.Poised first second)

/-- A handle of one process and its twin in the other, with the calls that wait for their threads. -/
structure Twins (setting : Setting) (body : Routine) (name counterpart : Nat)
    (first second : System) : Prop where
  page : second.machine.page = first.machine.page
  known : second.machine.cloneMissing = first.machine.cloneMissing
  handle : second.handles counterpart = (first.handles name).moved setting.other
  joining : second.joining counterpart = first.joining name
  stops : ∀ joining, first.joining name = some joining → joining.purpose = .stop
  lodged : Lodged setting body (first.handles name) first.machine second.machine
    (first.threadAt? setting.region.block) (second.threadAt? setting.other.block)

/-- The same answer in both, and twins afterwards. -/
def Twins.Agree (setting : Setting) (body : Routine) (name counterpart : Nat)
    (one other : System × CallResult) : Prop :=
  other.2 = one.2 ∧ Twins setting body name counterpart one.1 other.1

section

variable {setting : Setting} {body : Routine} {handle : Handle} {name counterpart : Nat}
  {first second : System} {one both after others : Machine} {thread fellow : RuntimeThread}
  {other : Region} {answers : HeapAnswers}

/-! Handles and their memory -/

@[simp]
theorem Handle.moved_isLive : (handle.moved other).isLive = handle.isLive := rfl

@[simp]
theorem Handle.moved_joined : (handle.moved other).joined = handle.joined := rfl

@[simp]
theorem Handle.moved_stopAtOnce : (handle.moved other).stopAtOnce? = handle.stopAtOnce? := by
  simp [Handle.stopAtOnce?, Handle.moved]

theorem Handle.moved_lifecycle : (handle.moved other).lifecycle = handle.lifecycle := by
  simp [Handle.lifecycle, Handle.moved]

theorem release_known (memory : ThreadMemory) (machine : Machine) :
    (memory.release machine).page = machine.page ∧
      (memory.release machine).cloneMissing = machine.cloneMissing := by
  unfold ThreadMemory.release ThreadMemory.withdraw
  split <;> exact ⟨rfl, rfl⟩

theorem Lodged.calm {crew crews : Option RuntimeThread}
    (lodged : Lodged setting body handle one both crew crews)
    (first : Calm one after) (second : Calm both others) (same : after.blocks = one.blocks)
    (sames : others.blocks = both.blocks) :
    Lodged setting body handle after others crew crews := by
  cases lodged with
  | nothing gone absent alone => exact .nothing gone absent alone
  | region has block stages poised =>
    refine .region has ?_ ?_ fun idle => (poised idle).calm first second
    · rw [same, sames]
      exact block
    · cases stages with
      | none => exact .none
      | some stages =>
        refine .some (stages.calm first second ?_ ?_)
        · rw [same]
        · rw [sames]

namespace Twins

theorem isLive (twins : Twins setting body name counterpart first second) :
    (second.handles counterpart).isLive = (first.handles name).isLive := by
  rw [twins.handle, Handle.moved_isLive]

theorem has (twins : Twins setting body name counterpart first second)
    (has : (first.handles name).memory = some ⟨setting.region, true⟩) :
    (second.handles counterpart).memory = some ⟨setting.other, true⟩ := by
  rw [twins.handle, Handle.moved, has]
  rfl

theorem idle (twins : Twins setting body name counterpart first second) (sound : Sound first)
    (sounds : Sound second) (idle : (first.handles name).isLive = false)
    (has : (first.handles name).memory = some ⟨setting.region, true⟩) :
    first.threadAt? setting.region.block = none ∧ second.threadAt? setting.other.block = none := by
  have absent := sound.idle_absent idle has
  have alone := sounds.idle_absent (twins.isLive.trans idle) (twins.has has)
  simp only [ThreadMemory.block] at absent alone
  exact ⟨absent, alone⟩

theorem waits (twins : Twins setting body name counterpart first second)
    {wait waits : Cells Nat (Option Joining)} (wake wakes : List Nat)
    (same : waits counterpart = wait name)
    (stops : ∀ joining, wait name = some joining → joining.purpose = .stop) :
    Twins setting body name counterpart { first with wakes := wake, joining := wait }
      { second with wakes := wakes, joining := waits } :=
  ⟨twins.page, twins.known, twins.handle, same, stops, twins.lodged⟩

theorem withJoining (twins : Twins setting body name counterpart first second)
    {waits : Option Joining} (stops : ∀ joining, waits = some joining → joining.purpose = .stop) :
    Twins setting body name counterpart (first.withJoining name waits)
      (second.withJoining counterpart waits) := by
  refine twins.waits first.wakes second.wakes ?_ ?_
  · rw [Cells.set_same, Cells.set_same]
  · rwa [Cells.set_same]

theorem withHandle (twins : Twins setting body name counterpart first second)
    (page : both.page = one.page) (known : both.cloneMissing = one.cloneMissing)
    (lodged : Lodged setting body handle one both (first.threadAt? setting.region.block)
      (second.threadAt? setting.other.block)) :
    Twins setting body name counterpart (first.withHandle name handle one)
      (second.withHandle counterpart (handle.moved setting.other) both) := by
  refine ⟨page, known, ?_, twins.joining, twins.stops, ?_⟩
  · simp [System.withHandle]
  · simp only [System.withHandle, Cells.set_same]
    exact lodged

theorem refused (twins : Twins setting body name counterpart first second) (result : CallResult) :
    Agree setting body name counterpart
      (first.withHandle name (first.handles name) first.machine, result)
      (second.withHandle counterpart ((first.handles name).moved setting.other) second.machine,
        result) :=
  ⟨rfl, twins.withHandle twins.page twins.known twins.lodged⟩

theorem destroy (twins : Twins setting body name counterpart first second) (sound : Sound first)
    (sounds : Sound second) :
    Agree setting body name counterpart (first.destroy name) (second.destroy counterpart) := by
  unfold System.destroy Handle.destroy
  rw [twins.handle, Handle.moved_isLive]
  cases live : (first.handles name).isLive with
  | true => exact twins.refused (.failed (.error .busy))
  | false =>
    rw [if_neg Bool.false_ne_true, if_neg Bool.false_ne_true]
    have gone : Handle.empty.moved setting.other = .empty := rfl
    cases twins.lodged with
    | nothing none absent alone =>
      simp only [Handle.moved, none, Option.map_none]
      rw [← gone]
      exact ⟨rfl, twins.withHandle twins.page twins.known (.nothing rfl absent alone)⟩
    | region has block stages poised =>
      obtain ⟨absent, alone⟩ := twins.idle sound sounds live has
      simp only [Handle.moved, has, Option.map_some]
      rw [← gone]
      refine ⟨rfl, twins.withHandle ?_ ?_ (.nothing rfl absent alone)⟩
      · rw [(release_known _ _).1, (release_known _ _).1]
        exact twins.page
      · rw [(release_known _ _).2, (release_known _ _).2]
        exact twins.known

theorem stop (twins : Twins setting body name counterpart first second)
    (timeout : Option Duration) (now : Instant) :
    Agree setting body name counterpart (first.stop name timeout now)
      (second.stop counterpart timeout now) := by
  unfold System.stop
  rw [twins.handle, Handle.moved_stopAtOnce]
  cases (first.handles name).stopAtOnce? with
  | some answer =>
    cases answer with
    | error failure => exact ⟨rfl, twins⟩
    | ok done => exact ⟨rfl, twins⟩
  | none =>
    refine ⟨rfl, twins.withJoining ?_⟩
    rintro joining ⟨⟩
    rfl

/-! Starting -/

/-- What the kernel answers a launch does not depend on whose it is. -/
theorem launch_alike (known : both.cloneMissing = one.cloneMissing) (answers : LaunchAnswers)
    (memory further : ThreadMemory) :
    (Handle.launch answers further both).1.answer = (Handle.launch answers memory one).1.answer ∧
      (Handle.launch answers further both).2.cloneMissing =
        (Handle.launch answers memory one).2.cloneMissing := by
  unfold Handle.launch Launch.run
  rw [known]
  cases one.cloneMissing with
  | true => simp
  | false => by_cases missing : answers.clone3 = Launch.notImplemented <;> simp [missing]

theorem launch_calm (answers : LaunchAnswers) (memory : ThreadMemory) (machine : Machine) :
    Calm machine (Handle.launch answers memory machine).2 := by
  unfold Handle.launch
  dsimp only
  split <;> exact ⟨rfl, rfl, rfl⟩

theorem launch_poised (known : both.cloneMissing = one.cloneMissing) (answers : LaunchAnswers)
    (twin : ControlBlock.Twin setting body (one.blocks setting.region.block)
      (both.blocks setting.other.block))
    (poised : setting.Poised one both) :
    setting.Poised (Handle.launch answers ⟨setting.region, true⟩ one).2
        (Handle.launch answers ⟨setting.other, true⟩ both).2 ∧
      ControlBlock.Twin setting body
        ((Handle.launch answers ⟨setting.region, true⟩ one).2.blocks setting.region.block)
        ((Handle.launch answers ⟨setting.other, true⟩ both).2.blocks setting.other.block) := by
  obtain ⟨answer, -⟩ := launch_alike known answers ⟨setting.region, true⟩ ⟨setting.other, true⟩
  obtain ⟨-, -, arguments, block⟩ := launch_steady answers ⟨setting.region, true⟩ one
  obtain ⟨-, -, more, blocks⟩ := launch_steady answers ⟨setting.other, true⟩ both
  simp only [ThreadMemory.block] at block blocks
  rw [answer] at blocks
  rw [block, blocks]
  exact ⟨poised.calm (launch_calm ..) (launch_calm ..),
    twin.routine, twin.others, rfl, twin.state, twin.result⟩

theorem launch (twins : Twins setting body name counterpart first second) (sound : Sound first)
    (sounds : Sound second) (has : (first.handles name).memory = some ⟨setting.region, true⟩)
    (created : (first.handles name).Created (first.machine.blocks setting.region.block))
    (also : (second.handles counterpart).Created (second.machine.blocks setting.other.block))
    (twin : ControlBlock.Twin setting body (first.machine.blocks setting.region.block)
      (second.machine.blocks setting.other.block))
    (poised : setting.Poised first.machine second.machine) (caller : Caller)
    (answers : LaunchAnswers) :
    Agree setting body name counterpart (first.start name caller answers)
      (second.start counterpart caller answers) := by
  have holds := twins.has has
  have idle : (first.handles name).isLive = false := by simp [Handle.isLive, created.launched]
  obtain ⟨absent, alone⟩ := twins.idle sound sounds idle has
  obtain ⟨answer, known⟩ := launch_alike twins.known answers ⟨setting.region, true⟩
    ⟨setting.other, true⟩
  obtain ⟨launched, shown⟩ := launch_poised twins.known answers twin poised
  have page := (launch_steady answers ⟨setting.other, true⟩ second.machine).1.page.trans
    (twins.page.trans (launch_steady answers ⟨setting.region, true⟩ first.machine).1.page.symm)
  have started := @start_created answers _ _ _ has created
  have starts := @start_created answers _ _ _ holds also
  rw [answer] at starts
  generalize Handle.launch answers ⟨setting.region, true⟩ first.machine = one
    at started starts known launched shown page
  generalize Handle.launch answers ⟨setting.other, true⟩ second.machine = both
    at starts known launched shown page
  -- The kernel answers both alike: both threads are there, or neither is.
  by_cases failed : one.1.answer < 0
  · rw [if_pos failed] at started starts
    rw [System.start, System.start, started, starts, twins.handle]
    refine ⟨rfl, twins.withHandle page known ?_⟩
    rw [absent, alone]
    exact .region has shown .none fun _ => launched.calm (.emit ..) (.emit ..)
  · rw [if_neg failed] at started starts
    rw [System.start, System.start, started, starts]
    dsimp only
    rw [has, holds]
    refine ⟨rfl, page, known, ?_, twins.joining, twins.stops, ?_⟩
    · simp only [System.withHandle, Cells.set_same, twins.handle]
      rfl
    · have here := @System.threadAt?_launched first ⟨setting.region, true⟩ caller.home absent
      have there := @System.threadAt?_launched second ⟨setting.other, true⟩ caller.home alone
      simp only [ThreadMemory.block] at here there
      simp only [System.withHandle, Cells.set_same]
      refine .region rfl shown ?_ fun entered => absurd entered (by simp)
      have crew : Option.Rel (fun thread fellow : RuntimeThread => thread.stage.Matches setting
          (one.2.emit (.threadStarted one.1.answer.toNat))
          (both.2.emit (.threadStarted one.1.answer.toNat)) fellow.stage)
          (some (.launched setting.region caller.home))
          (some (.launched setting.other caller.home)) :=
        .some (.entering (launched.calm (.emit ..) (.emit ..)))
      rw [← here, ← there] at crew
      exact crew

theorem start (twins : Twins setting body name counterpart first second) (sound : Sound first)
    (sounds : Sound second) (caller : Caller) (answers : LaunchAnswers) :
    Agree setting body name counterpart (first.start name caller answers)
      (second.start counterpart caller answers) := by
  obtain ⟨state, represents⟩ := sound.handles name
  obtain ⟨further, also⟩ := sounds.handles counterpart
  have same : further = state := by
    rw [← also.lifecycle, twins.handle, Handle.moved_lifecycle, represents.lifecycle]
  subst same
  by_cases ready : further = .created
  · subst ready
    cases represents with
    | @created memory has created =>
      cases also with
      | @created further holds otherCreated =>
        cases twins.lodged with
        | nothing gone => cases gone.symm.trans has
        | region mine block stages poised =>
          obtain rfl : memory = ⟨setting.region, true⟩ := Option.some.inj (has.symm.trans mine)
          obtain rfl : further = ⟨setting.other, true⟩ :=
            Option.some.inj (holds.symm.trans (twins.has mine))
          exact twins.launch sound sounds mine created otherCreated block (poised created.launched)
            caller answers
  · rw [System.start, System.start, start_misuse represents ready, start_misuse also ready,
      twins.handle]
    exact twins.refused _

/-! Creates that fail -/

theorem create_fails {request : CreateRequest} {caller : Caller} {answers : MemoryAnswers}
    (sound : Sound first) (paged : Pages.Real first.machine.page)
    (lawful : answers.Lawful first.machine)
    (failed : (first.create name request caller answers).2 ≠ .returned) :
    ∃ cause, CreateFailure request answers (first.handles name) first.machine cause := by
  rcases create_total request answers (first.handles name) first.machine with
    failure | ⟨reused, memory, between, prepares⟩
  · exact failure
  · have mine : first.held (.handle name) = (first.handles name).memory := rfl
    have room := prepares.roomy sound.ownership mine paged lawful
    refine absurd ?_ failed
    rw [System.create, prepares.create]
    dsimp only
    rw [adopt_roomy room]
    rfl

theorem failure (twins : Twins setting body name counterpart first second) (fair : setting.Fair)
    {request : CreateRequest} {answers : MemoryAnswers} {cause : Error}
    (failure : CreateFailure request answers (first.handles name) first.machine cause) :
    CreateFailure request answers (second.handles counterpart) second.machine cause := by
  cases failure with
  | busy live => exact .busy (twins.isLive.trans live)
  | noMemory idle unfit nothing =>
    refine .noMemory (twins.isLive.trans idle) ?_ ?_
    · rw [twins.page, twins.handle]
      intro memory there
      obtain ⟨old, had, rfl⟩ := Option.map_eq_some_iff.mp there
      have same := unfit old had
      cases twins.lodged with
      | nothing gone => cases gone.symm.trans had
      | region has =>
        obtain rfl : old = ⟨setting.region, true⟩ := Option.some.inj (had.symm.trans has)
        rwa [Region.fits, fair.moves.stack, fair.moves.storage]
    · rw [twins.page]
      exact nothing

theorem allocate_alike (page : both.page = one.page) (sizing : Sizing) (answers : MemoryAnswers)
    {address : Nat} (same : both.memory address = one.memory address) :
    (ThreadMemory.allocate sizing answers both).2.memory address =
      (ThreadMemory.allocate sizing answers one).2.memory address := by
  unfold ThreadMemory.allocate Machine.reserveRegion
  rw [page]
  cases Region.length? one.page sizing with
  | none => exact same
  | some length =>
    dsimp only
    cases answers.map length with
    | error error => exact same
    | ok base =>
      have filled : (both.memory.fill base length 0) address =
          (one.memory.fill base length 0) address := by
        rw [Memory.fill, Memory.fill, Memory.get_write, Memory.get_write, same]
      dsimp only [Machine.map]
      cases answers.protect <;> exact filled

theorem poised_untouched (fair : setting.Fair) (poised : setting.Poised one both)
    (first : Untouched one after) (second : Untouched both others)
    (mapped : setting.region.mapping ∈ one.mappings)
    (there : setting.other.mapping ∈ both.mappings)
    (same : ∀ address, both.memory address = one.memory address →
      others.memory address = after.memory address) : setting.Poised after others := by
  refine ⟨⟨?_, ?_⟩, ?_⟩
  · rw [first.rest, second.rest]
    exact poised.abreast.shared
  · rw [first.rest, second.rest]
    exact poised.abreast.arenas
  · intro address common
    have meets := poised.meets address common
    by_cases inside : setting.region.Holds address
    · have moved := @Region.translate_inside setting.region setting.other address inside
      have long := fair.moves.length
      obtain ⟨low, high⟩ := inside
      rw [first.bytes _ mapped address low high, second.bytes _ there _ _ _]
      · exact meets
      · simp only [Region.mapping]
        omega
      · simp only [Region.mapping]
        omega
    · rw [Region.translate_outside inside, Setting.initial_outside fair inside] at meets ⊢
      exact (same address meets.symm).symm

theorem create {request : CreateRequest} {caller : Caller} {answers : MemoryAnswers}
    (twins : Twins setting body name counterpart first second) (sound : Sound first)
    (sounds : Sound second) (fair : setting.Fair) (paged : Pages.Real first.machine.page)
    (lawful : answers.Lawful first.machine) (otherLawful : answers.Lawful second.machine)
    (failed : (first.create name request caller answers).2 ≠ .returned) :
    Agree setting body name counterpart (first.create name request caller answers)
      (second.create counterpart request caller answers) := by
  obtain ⟨cause, failure⟩ := create_fails sound paged lawful failed
  have failures := twins.failure fair failure
  cases failure with
  | busy live =>
    rw [System.create, System.create, Handle.create_live live,
      Handle.create_live (twins.isLive.trans live), twins.handle]
    exact twins.refused _
  | @noMemory error idle unfit nothing =>
    cases failures with
    | noMemory otherIdle unfits nothings =>
      obtain ⟨asked, done, untouched⟩ := nothing.allocate lawful
      obtain ⟨otherAsked, otherDone, otherUntouched⟩ := nothings.allocate otherLawful
      have same {address : Nat}
          (same : second.machine.memory address = first.machine.memory address) :
          otherAsked.memory address = asked.memory address := by
        have alike := allocate_alike twins.page (request.sizing.rounded first.machine.page) answers
          same
        rw [twins.page] at otherDone
        rwa [done, otherDone] at alike
      rw [System.create, System.create, Handle.create_unfit idle unfit,
        Handle.create_unfit otherIdle unfits, Handle.replace, Handle.replace, done, otherDone,
        twins.handle]
      refine ⟨rfl, twins.withHandle ?_ ?_ ?_⟩
      · rw [untouched.rest, otherUntouched.rest]
        exact twins.page
      · rw [untouched.rest, otherUntouched.rest]
        exact twins.known
      · cases twins.lodged with
        | nothing gone absent alone => exact .nothing gone absent alone
        | region has block stages poised =>
          have mine : first.held (.handle name) = some ⟨setting.region, true⟩ := has
          have theirs : second.held (.handle counterpart) = some ⟨setting.other, true⟩ :=
            twins.has has
          obtain ⟨absent, alone⟩ := twins.idle sound sounds idle has
          refine .region has ?_ ?_ fun launched => poised_untouched fair (poised launched)
            (untouched.emit _) (otherUntouched.emit _) (sound.ownership.housed mine).mapped
            (sounds.ownership.housed theirs).mapped fun address => same
          · rw [untouched.rest, otherUntouched.rest]
            exact block
          · rw [absent, alone]
            exact .none

/-! Steps of the threads -/

theorem threadStep_absent {system : System} {block : Nat} (absent : system.threadAt? block = none) :
    system.threadStep block answers = system := by
  rw [System.threadStep, System.threadStep?, absent]
  rfl

theorem staged (twins : Twins setting body name counterpart first second) {stage next : Option Stage}
    (page : both.page = one.page) (known : both.cloneMissing = one.cloneMissing)
    (found : first.threadAt? setting.region.block = some thread)
    (founds : second.threadAt? setting.other.block = some fellow)
    (has : (first.handles name).memory = some ⟨setting.region, true⟩)
    (launched : (first.handles name).launched = true)
    (stages : Option.Rel (fun stage next => stage.Matches setting one both next) stage next)
    (block : ControlBlock.Twin setting body (one.blocks setting.region.block)
      (both.blocks setting.other.block)) :
    Twins setting body name counterpart
      ({ first with machine := one }.withStage setting.region.block stage)
      ({ second with machine := both }.withStage setting.other.block next) := by
  have crew : Option.Rel (fun thread fellow : RuntimeThread =>
      thread.stage.Matches setting one both fellow.stage)
      (stage.bind fun stage => (first.threadAt? setting.region.block).map fun thread =>
        { thread with stage := stage })
      (next.bind fun stage => (second.threadAt? setting.other.block).map fun thread =>
        { thread with stage := stage }) := by
    rw [found, founds]
    cases stages with
    | none => exact .none
    | some same => exact .some same
  refine ⟨?_, ?_, ?_, ?_, ?_, ?_⟩
  · rw [System.machine_withStage, System.machine_withStage]
    exact page
  · rw [System.machine_withStage, System.machine_withStage]
    exact known
  · rw [System.handles_withStage, System.handles_withStage]
    exact twins.handle
  · rw [System.joining_withStage, System.joining_withStage]
    exact twins.joining
  · rw [System.joining_withStage]
    exact twins.stops
  · rw [System.machine_withStage, System.machine_withStage, System.handles_withStage,
      System.threadAt?_withStage_same, System.threadAt?_withStage_same]
    refine .region has block crew ?_
    intro idle
    cases launched.symm.trans idle

theorem advance (twins : Twins setting body name counterpart first second) (sound : Sound first)
    (sounds : Sound second) (fair : setting.Fair)
    (uniform : body.Matches setting body setting.beginning)
    (clear : ∀ size place, answers size = some place → setting.Clear place size)
    (has : (first.handles name).memory = some ⟨setting.region, true⟩)
    (found : first.threadAt? setting.region.block = some thread)
    (founds : second.threadAt? setting.other.block = some fellow)
    (block : ControlBlock.Twin setting body (first.machine.blocks setting.region.block)
      (second.machine.blocks setting.other.block))
    (same : thread.stage.Matches setting first.machine second.machine fellow.stage) :
    Twins setting body name counterpart (first.threadStep setting.region.block answers)
      (second.threadStep setting.other.block answers) := by
  have mine : first.held (.handle name) = some ⟨setting.region, true⟩ := has
  have theirs : second.held (.handle counterpart) = some ⟨setting.other, true⟩ := twins.has has
  have here := System.threadAt?_block found
  have there := System.threadAt?_block founds
  have slot := runtime_slot sound found (runtime_stack sound found).1 (runtime_stack sound found).2
  have otherSlot :=
    runtime_slot sounds founds (runtime_stack sounds founds).1 (runtime_stack sounds founds).2
  have abides := step_abides fair uniform same here there slot otherSlot
    (sound.ownership.housed mine).described.context (sounds.ownership.housed theirs).described.context
    clear block
  rw [System.threadStep, System.threadStep, System.threadStep?, System.threadStep?, found, founds,
    Option.bind_some, Option.bind_some]
  generalize stepped : thread.step answers first.machine = reached at abides ⊢
  generalize steps : fellow.step answers second.machine = reaches at abides ⊢
  cases abides with
  | none => exact twins
  | some abides =>
    rw [← here] at slot
    rw [← there] at otherSlot
    have steady := (step_advance stepped slot).1
    have otherSteady := (step_advance steps otherSlot).1
    refine twins.staged ?_ ?_ found founds has ?_ abides.1 abides.2
    · rw [steady.page, otherSteady.page]
      exact twins.page
    · rw [step_known stepped, step_known steps]
      exact twins.known
    · cases launched : (first.handles name).launched with
      | true => rfl
      | false =>
        have idle : (first.handles name).isLive = false := by simp [Handle.isLive, launched]
        cases found.symm.trans (twins.idle sound sounds idle has).1

theorem run (twins : Twins setting body name counterpart first second) (sound : Sound first)
    (sounds : Sound second) (fair : setting.Fair)
    (uniform : body.Matches setting body setting.beginning)
    (clear : ∀ size place, answers size = some place → setting.Clear place size) :
    Twins setting body name counterpart (first.threadStep setting.region.block answers)
      (second.threadStep setting.other.block answers) := by
  cases twins.lodged with
  | nothing gone absent alone =>
    rw [threadStep_absent absent, threadStep_absent alone]
    exact twins
  | region has block stages poised =>
    generalize found : first.threadAt? setting.region.block = crew at stages
    generalize founds : second.threadAt? setting.other.block = crews at stages
    cases stages with
    | none =>
      rw [threadStep_absent found, threadStep_absent founds]
      exact twins
    | some same => exact twins.advance sound sounds fair uniform clear has found founds block same

/-! Waiting -/

theorem joinWord (twins : Twins setting body name counterpart first second) :
    second.joinWord counterpart = first.joinWord name := by
  unfold System.joinWord Handle.block?
  rw [twins.handle, Handle.moved]
  cases twins.lodged with
  | nothing gone =>
    rw [gone]
    rfl
  | region has block =>
    rw [has]
    exact block.word

theorem finish (twins : Twins setting body name counterpart first second)
    (result : Except Error Unit) :
    Agree setting body name counterpart (first.finish name .stop result)
      (second.finish counterpart .stop result) := by
  have idle : Twins setting body name counterpart (first.withJoining name none)
      (second.withJoining counterpart none) := twins.withJoining nofun
  have told (event : Event) : Lodged setting body (first.handles name)
      (first.machine.emit event) (second.machine.emit event)
      (first.threadAt? setting.region.block) (second.threadAt? setting.other.block) :=
    twins.lodged.calm (.emit ..) (.emit ..) rfl rfl
  unfold System.finish
  dsimp only
  rw [twins.handle]
  cases result with
  | ok done =>
    refine ⟨rfl, idle.withHandle twins.page twins.known ?_⟩
    cases told (.threadJoined (first.handles name).id) with
    | nothing gone absent alone => exact .nothing gone absent alone
    | region has block stages poised => exact .region has block stages poised
  | error error =>
    cases error with
    | timedOut => exact ⟨rfl, idle.withHandle twins.page twins.known twins.lodged⟩
    | _ =>
      refine ⟨rfl, idle.withHandle twins.page twins.known ?_⟩
      exact told _

theorem wait (twins : Twins setting body name counterpart first second) (now : Instant)
    (refusal : Option OsError) :
    Agree setting body name counterpart (first.joinStep name now refusal)
      (second.joinStep counterpart now refusal) := by
  unfold System.joinStep
  rw [twins.joining]
  cases waiting : first.joining name with
  | none => exact ⟨rfl, twins⟩
  | some joining =>
    rcases joining with ⟨purpose, join, asleep⟩
    obtain rfl : purpose = .stop := twins.stops _ waiting
    have goesOn (join : Join) (asleep : Bool) :
        Agree setting body name counterpart
          (first.withJoining name (some ⟨.stop, join, asleep⟩), .waits)
          (second.withJoining counterpart (some ⟨.stop, join, asleep⟩), .waits) := by
      refine ⟨rfl, twins.withJoining ?_⟩
      rintro _ ⟨⟩
      rfl
    cases asleep with
    | true => exact ⟨rfl, twins⟩
    | false =>
      simp only [twins.joinWord, Bool.false_eq_true, if_false]
      cases join.phase with
      | load => exact goesOn _ false
      | recheck => exact goesOn _ false
      | clock seen => exact goesOn _ false
      | wait seen left =>
        cases refusal with
        | some error => exact goesOn _ false
        | none =>
          by_cases same : first.joinWord name = seen
          · simp only [if_pos same]
            exact goesOn join true
          · simp only [if_neg same]
            exact goesOn _ false
      | finished result => exact twins.finish result

theorem roused_stops (twins : Twins setting body name counterpart first second)
    (outcome : Except OsError Unit) (joining : Joining)
    (roused : (first.joining name).map (Joining.roused outcome) = some joining) :
    joining.purpose = .stop := by
  obtain ⟨before, waiting, rfl⟩ := Option.map_eq_some_iff.mp roused
  have stops := twins.stops before waiting
  unfold Joining.roused
  split <;> exact stops

theorem rouse (twins : Twins setting body name counterpart first second)
    (outcome : Except OsError Unit) :
    Twins setting body name counterpart (first.rouse name outcome)
      (second.rouse counterpart outcome) := by
  unfold System.rouse
  rw [twins.joining]
  exact twins.withJoining (twins.roused_stops outcome)

theorem sleeps (twins : Twins setting body name counterpart first second) :
    second.sleepsOn counterpart = some setting.other.block ↔
      first.sleepsOn name = some setting.region.block := by
  unfold System.sleepsOn
  rw [twins.joining]
  cases first.joining name with
  | none => exact ⟨nofun, nofun⟩
  | some joining =>
    dsimp only
    rw [twins.handle, Handle.moved]
    cases twins.lodged with
    | nothing gone => simp [gone]
    | region has => simp [has, ThreadMemory.block]

theorem wake (twins : Twins setting body name counterpart first second)
    (issued : setting.region.block ∈ first.wakes ↔ setting.other.block ∈ second.wakes) :
    Twins setting body name counterpart (first.wake setting.region.block)
      (second.wake setting.other.block) := by
  unfold System.wake
  by_cases here : setting.region.block ∈ first.wakes
  · rw [if_pos here, if_pos (issued.mp here)]
    by_cases asleep : first.sleepsOn name = some setting.region.block
    · refine twins.waits _ _ ?_ ?_
      · rw [if_pos asleep, if_pos (twins.sleeps.mpr asleep), twins.joining]
      · rw [if_pos asleep]
        exact twins.roused_stops (.ok ())
    · have awake : second.sleepsOn counterpart ≠ some setting.other.block :=
        fun there => asleep (twins.sleeps.mp there)
      refine twins.waits _ _ ?_ ?_
      · rw [if_neg asleep, if_neg awake, twins.joining]
      · rw [if_neg asleep]
        exact twins.stops
  · rw [if_neg here, if_neg fun there => here (issued.mpr there)]
    exact twins

end Twins

end

end ArenaThreads
