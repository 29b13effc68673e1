import ArenaThreads.Proofs.Process.RegionLayout
import ArenaThreads.Proofs.Process.Renewal
/-!
What a create leaves in the storage of a handle. Which region a handle has is settled by the calls
alone and by what they come to, whatever the threads do. A region that is mapped anew holds zeroes; one
that is used again holds what was there before, all but the context copy.
-/

namespace ArenaThreads

/-! Regions, from calls and their results -/

/-- What calls and their results tell of a handle: its region, and what a call waits for that waits
on it. -/
structure Tenancy where
  region : Cells Nat (Option Region)
  waiting : Cells Nat (Option JoinPurpose)

def System.tenancy (system : System) : Tenancy where
  region name := (system.handles name).memory.map ThreadMemory.region
  waiting name := (system.joining name).map Joining.purpose

def Region.mapped? (page : Nat) (sizing : Sizing) (answers : MemoryAnswers) : Option Region := do
  let length ← Region.length? page sizing
  let base ← (answers.map length).toOption
  return ⟨base, length, page, sizing.stack, sizing.storage⟩

namespace Tenancy

variable (page : Nat) (name : Nat)

def reused? (request : CreateRequest) (tenancy : Tenancy) : Option Region :=
  (tenancy.region name).filter (Region.fits (request.sizing.rounded page))

def granted? (request : CreateRequest) (answers : MemoryAnswers) (tenancy : Tenancy) :
    Option Region :=
  match tenancy.reused? page name request with
  | some region => some region
  | none => Region.mapped? page (request.sizing.rounded page) answers

def withRegion (region : Option Region) (tenancy : Tenancy) : Tenancy :=
  { tenancy with region := tenancy.region.set name region }

def withWaiting (purpose : Option JoinPurpose) (tenancy : Tenancy) : Tenancy :=
  { tenancy with waiting := tenancy.waiting.set name purpose }

def call (tenancy : Tenancy) : Call → CallResult → Tenancy
  | .create request _ answers, .returned =>
    tenancy.withRegion name (tenancy.granted? page name request answers)
  | .destroy, .returned | .drop, .returned => tenancy.withRegion name none
  | .stop .., .waits => tenancy.withWaiting name (some .stop)
  | .drop, .waits => tenancy.withWaiting name (some .drop)
  | _, _ => tenancy

def join (tenancy : Tenancy) : CallResult → Tenancy
  | .waits => tenancy
  | _ =>
    match tenancy.waiting name with
    | some .drop => (tenancy.withWaiting name none).withRegion name none
    | _ => tenancy.withWaiting name none

def after (tenancy : Tenancy) (result : CallResult) : Move → Tenancy
  | .call name call =>
    if (tenancy.waiting name).isSome then tenancy else tenancy.call page name call result
  | .join name _ _ => tenancy.join name result
  | _ => tenancy

end Tenancy

section

variable {system : System} {machine after : Machine} {handle : Handle} {name : Nat}
  {request : CreateRequest} {caller : Caller} {answers : MemoryAnswers} {sizing : Sizing}
  {memory : ThreadMemory} {move : Move} {reused : Bool}

theorem allocate_mapped (done : ThreadMemory.allocate sizing answers machine = (.ok memory, after)) :
    Region.mapped? machine.page sizing answers = some memory.region ∧
      after.memory = machine.memory.fill memory.region.base memory.region.length 0 := by
  unfold ThreadMemory.allocate Machine.reserveRegion at done
  unfold Region.mapped?
  cases size : Region.length? machine.page sizing with
  | none =>
    rw [size] at done
    cases done
  | some length =>
    rw [size] at done
    dsimp only [Machine.map] at done
    cases mapped : answers.map length with
    | error error =>
      rw [mapped] at done
      cases done
    | ok base =>
      rw [mapped] at done
      dsimp only at done
      cases guarded : answers.protect with
      | some error =>
        rw [guarded] at done
        cases done
      | none =>
        rw [guarded] at done
        cases done
        exact ⟨by simp [mapped, Except.toOption], rfl⟩

theorem Prepares.granted
    (prepares : Prepares request answers (system.handles name) system.machine reused memory after) :
    (system.tenancy.reused? system.machine.page name request).isSome = reused ∧
      system.tenancy.granted? system.machine.page name request answers = some memory.region := by
  have unfit (nothing : (system.handles name).Unfit (request.sizing.rounded system.machine.page)) :
      system.tenancy.reused? system.machine.page name request = none := by
    rw [Tenancy.reused?, Option.filter_eq_none_iff]
    intro region had
    obtain ⟨previous, has, rfl⟩ := Option.map_eq_some_iff.mp had
    rw [nothing previous has]
    exact Bool.false_ne_true
  cases prepares with
  | reused idle has fits =>
    have again : system.tenancy.reused? system.machine.page name request = some memory.region := by
      rw [Tenancy.reused?, Option.filter_eq_some_iff]
      exact ⟨congrArg (Option.map ThreadMemory.region) has, fits⟩
    rw [Tenancy.granted?, again]
    exact ⟨rfl, rfl⟩
  | fresh idle nothing done =>
    rw [Tenancy.granted?, unfit (by simp [Handle.Unfit, nothing])]
    exact ⟨rfl, (allocate_mapped done).1⟩
  | replaced idle had small done =>
    rw [Tenancy.granted?, unfit (by simp [Handle.Unfit, had, small])]
    exact ⟨rfl, (allocate_mapped done).1⟩

/-! What a create leaves in storage -/

def Region.refreshed (memory : Memory) (region : Region) : List UInt8 :=
  (Context.store ⟨.arena region.block⟩ region.copy memory).read region.storageStart region.storage

theorem prepare_bytes (assignment : Assignment) (machine : Machine) (room : memory.roomy = true) :
    ∃ prepared, memory.prepare assignment machine = (.ok ⟨memory.region, true⟩, prepared) ∧
      prepared.memory = Context.store ⟨.arena memory.block⟩ memory.region.copy machine.memory := by
  rw [ThreadMemory.prepare_roomy room]
  refine ⟨_, rfl, ?_⟩
  dsimp only [Machine.register]
  rw [withdraw_rest]
  rfl

theorem readable_ofAssignment {assignment : Assignment} {region : Region}
    (shows : (Handle.ofAssignment assignment ⟨region, true⟩).storage? machine =
      some (region.storageStart, region.storage)) :
    ((Handle.ofAssignment assignment ⟨region, true⟩).view machine).readable =
      some (machine.memory.read region.storageStart region.storage) := by
  have idle : (Handle.ofAssignment assignment ⟨region, true⟩).isLive = false := rfl
  simp only [Handle.view, Handle.readableStorage?, idle, shows]
  rfl

theorem Prepares.made (caller : Caller)
    (prepares : Prepares request answers handle machine reused memory after)
    (room : memory.roomy = true) :
    ∃ made, handle.create request caller answers machine =
        (.ofAssignment (request.assignment caller machine) ⟨memory.region, true⟩, made, .ok ()) ∧
      ((Handle.ofAssignment (request.assignment caller machine) ⟨memory.region, true⟩).view
        made).readable = some (memory.region.refreshed after.memory) := by
  obtain ⟨prepared, done, bytes⟩ := prepare_bytes (request.assignment caller machine) after room
  rw [prepares.create, Handle.adopt, done]
  refine ⟨_, rfl, (readable_ofAssignment ?_).trans ?_⟩
  · exact (ThreadMemory.prepared_shown done rfl).2.1
  · exact congrArg (fun bytes : Memory => some (bytes.read _ _)) bytes

/-! One move -/

theorem System.tenancy_withHandle :
    (system.withHandle name handle machine).tenancy =
      system.tenancy.withRegion name (handle.memory.map ThreadMemory.region) := by
  simp only [tenancy, withHandle, Tenancy.withRegion, Tenancy.mk.injEq, and_true]
  exact Cells.map_set (fun handle : Handle => handle.memory.map ThreadMemory.region) ..

theorem System.tenancy_kept (same : handle.memory = (system.handles name).memory) :
    (system.withHandle name handle machine).tenancy = system.tenancy := by
  rw [tenancy_withHandle, same, Tenancy.withRegion]
  exact congrArg (Tenancy.mk · _) (Cells.set_self ..)

theorem System.tenancy_withJoining {waits : Option Joining} :
    (system.withJoining name waits).tenancy =
      system.tenancy.withWaiting name (waits.map Joining.purpose) := by
  simp only [tenancy, withJoining, Tenancy.withWaiting, Tenancy.mk.injEq, true_and]
  exact Cells.map_set (Option.map Joining.purpose) ..

theorem create_tenancy (sound : Sound system) (paged : Pages.Real system.machine.page)
    (lawful : answers.Lawful system.machine) :
    (system.create name request caller answers).1.tenancy =
      system.tenancy.call system.machine.page name (.create request caller answers)
        (system.create name request caller answers).2 := by
  rcases create_total request answers (system.handles name) system.machine with
    ⟨cause, failure⟩ | ⟨reused, memory, between, prepares⟩
  · obtain ⟨after, failed, -⟩ := failure.create caller lawful
    rw [System.create, failed]
    exact System.tenancy_kept rfl
  · have mine : system.held (.handle name) = (system.handles name).memory := rfl
    have room := prepares.roomy sound.ownership mine paged lawful
    obtain ⟨made, done, -⟩ := prepares.made caller room
    rw [System.create, done]
    exact System.tenancy_withHandle.trans
      (congrArg (system.tenancy.withRegion name) prepares.granted.2.symm)

theorem call_tenancy (call : Call) (sound : Sound system) (paged : Pages.Real system.machine.page)
    (lawful : (Move.call name call).Lawful system) :
    (system.call name call).1.tenancy =
      system.tenancy.call system.machine.page name call (system.call name call).2 := by
  cases call with
  | create request caller answers => exact create_tenancy sound paged lawful
  | start caller answers =>
    have kept := @start_region system.machine (system.handles name) answers
    simp only [System.call, System.start]
    generalize (system.handles name).start answers system.machine = outcome at kept ⊢
    rcases outcome with ⟨handle, machine, failure | done⟩
    · exact System.tenancy_kept kept
    · exact (System.tenancy_kept kept : (system.withHandle name handle machine).tenancy = _)
  | stop timeout now =>
    simp only [System.call, System.stop]
    cases (system.handles name).stopAtOnce? with
    | none => exact System.tenancy_withJoining
    | some answer => cases answer <;> rfl
  | destroy =>
    simp only [System.call, System.destroy, Handle.destroy]
    split
    · exact System.tenancy_kept rfl
    · split <;> exact System.tenancy_withHandle
  | drop =>
    simp only [System.call, System.drop]
    split
    · exact System.tenancy_withJoining
    · exact System.tenancy_withHandle

theorem Joining.roused_purpose (outcome : Except OsError Unit) (joining : Joining) :
    (joining.roused outcome).purpose = joining.purpose := by
  unfold Joining.roused
  split <;> rfl

theorem System.tenancy_waits {joining : Joining} (waiting : system.joining name = some joining)
    (join : Join) (asleep : Bool) :
    (system.withJoining name (some { joining with join := join, asleep := asleep })).tenancy =
      system.tenancy := by
  have purpose : system.tenancy.waiting name = some joining.purpose :=
    congrArg (Option.map Joining.purpose) waiting
  rw [tenancy_withJoining, Tenancy.withWaiting]
  exact congrArg (Tenancy.mk _) ((congrArg _ purpose.symm).trans (Cells.set_self ..))

theorem rouse_tenancy (outcome : Except OsError Unit) :
    (system.rouse name outcome).tenancy = system.tenancy := by
  have purpose : ((system.joining name).map (Joining.roused outcome)).map Joining.purpose =
      system.tenancy.waiting name := by
    rw [Option.map_map]
    exact congrArg (fun purpose => (system.joining name).map purpose)
      (funext (Joining.roused_purpose outcome))
  rw [System.rouse, System.tenancy_withJoining, purpose, Tenancy.withWaiting]
  exact congrArg (Tenancy.mk _) (Cells.set_self ..)

theorem wake_tenancy (block : Nat) : (system.wake block).tenancy = system.tenancy := by
  unfold System.wake
  split
  · rw [System.tenancy, System.tenancy, Tenancy.mk.injEq]
    refine ⟨rfl, funext fun name => ?_⟩
    dsimp only
    split
    · rw [Option.map_map]
      exact congrArg (fun purpose => (system.joining name).map purpose)
        (funext (Joining.roused_purpose (.ok ())))
    · rfl
  · rfl

theorem finish_tenancy {joining : Joining} (waiting : system.joining name = some joining)
    (result : Except Error Unit) :
    (system.finish name joining.purpose result).1.tenancy =
      system.tenancy.join name (system.finish name joining.purpose result).2 := by
  have waits : system.tenancy.waiting name = some joining.purpose :=
    congrArg (Option.map Joining.purpose) waiting
  have ended : (system.withJoining name none).tenancy = system.tenancy.withWaiting name none :=
    System.tenancy_withJoining
  unfold System.finish
  cases purpose : joining.purpose with
  | stop =>
    have kept := @stopped_region system.machine (system.handles name) result
    have still := @System.tenancy_kept (system.withJoining name none)
      ((system.handles name).stopped result system.machine).2 _ name kept
    have done : system.tenancy.join name (System.resultOf result) =
        system.tenancy.withWaiting name none := by
      cases result <;> simp only [System.resultOf, Tenancy.join, waits, purpose]
    exact (still.trans ended).trans done.symm
  | drop =>
    have left := @System.tenancy_withHandle (system.withJoining name none)
      ((system.handles name).dropped result system.machine) .empty name
    rw [ended] at left
    simp only [Tenancy.join, waits, purpose]
    exact left

theorem joinStep_tenancy (name : Nat) (now : Instant) (refusal : Option OsError) :
    (system.joinStep name now refusal).1.tenancy =
      system.tenancy.join name (system.joinStep name now refusal).2 := by
  unfold System.joinStep
  cases waiting : system.joining name with
  | none => rfl
  | some joining =>
    have goes (join : Join) (asleep : Bool) := System.tenancy_waits waiting join asleep
    dsimp only
    split
    · rfl
    · split
      · exact goes ..
      · exact goes ..
      · exact goes ..
      · split
        · exact goes ..
        · split
          · exact goes ..
          · exact goes ..
      · exact finish_tenancy waiting _

theorem step_tenancy (sound : Sound system) (paged : Pages.Real system.machine.page)
    (lawful : move.Lawful system) :
    (system.step move).1.tenancy =
      system.tenancy.after system.machine.page (system.step move).2 move := by
  cases move with
  | call name call =>
    have waits : (system.tenancy.waiting name).isSome = (system.joining name).isSome :=
      Option.isSome_map
    simp only [System.step, Tenancy.after, waits]
    split
    · rfl
    · exact call_tenancy call sound paged lawful
  | thread block answers =>
    simp only [System.step, Tenancy.after]
    rcases System.threadStep_cases block answers system with
      ⟨same, -⟩ | ⟨thread, stage, after, -, -, same⟩
    · rw [same]
    · rw [same, System.tenancy, System.handles_withStage, System.joining_withStage]
      rfl
  | wake block => exact wake_tenancy block
  | join name now refusal => exact joinStep_tenancy name now refusal
  | rouse name outcome => exact rouse_tenancy outcome

end

/-! Two histories -/

inductive Move.Alike : Move → Move → Prop
  | same (move : Move) : Alike move move
  | create (name : Nat) (request : CreateRequest) (function : ThreadFunction) (caller : Caller)
    (answers : MemoryAnswers) :
    Alike (.call name (.create request caller answers))
      (.call name (.create { request with function := function } caller answers))

def System.results : List Move → System → List CallResult
  | [], _ => []
  | move :: rest, system => (system.step move).2 :: results rest (system.step move).1

def Region.Unwritten (address : Nat) (region : Region) : Prop :=
  region.storageStart ≤ address ∧ address < region.storageStart + region.storage ∧
    ¬(region.copy ≤ address ∧ address < region.copy + Context.size)

/-- What a create finds: what the region held before if it is used again, and zeroes if it is new. -/
def System.inherited (name : Nat) (request : CreateRequest) (system : System) : Memory :=
  if (system.tenancy.reused? system.machine.page name request).isSome then system.machine.memory
  else {}

def System.readable (name : Nat) (system : System) : Option (List UInt8) :=
  ((system.handles name).view system.machine).readable

section

variable {first second : System} {moves others : List Move} {one other : Move} {region : Region}
  {memory further : Memory} {name : Nat} {request : CreateRequest} {caller : Caller}
  {answers : MemoryAnswers} {page : Nat}

theorem Move.Alike.after (alike : one.Alike other) (tenancy : Tenancy) (result : CallResult) :
    tenancy.after page result other = tenancy.after page result one := by
  cases alike with
  | same move => rfl
  | create name request function caller answers => cases result <;> rfl

/-- Where all calls come to the same, the handles have the same regions, whatever the threads do. -/
theorem run_tenancy (alike : List.Forall₂ Move.Alike moves others) (sound : Sound first)
    (sounds : Sound second) (paged : Pages.Real first.machine.page)
    (lawful : System.LawfulRun moves first) (otherLawful : System.LawfulRun others second)
    (page : second.machine.page = first.machine.page) (begin : second.tenancy = first.tenancy)
    (results : second.results others = first.results moves) :
    (second.run others).tenancy = (first.run moves).tenancy ∧
      (second.run others).machine.page = (first.run moves).machine.page := by
  induction alike generalizing first second with
  | nil => exact ⟨begin, page⟩
  | cons same rest ih =>
    obtain ⟨now, onward⟩ := lawful
    obtain ⟨nows, onwards⟩ := otherLawful
    obtain ⟨result, results⟩ := List.cons.inj results
    have effect := step_effect sound now
    have effects := step_effect sounds nows
    refine ih (effect.sound sound) (effects.sound sounds) (by rw [effect.page]; exact paged) onward
      onwards (by rw [effect.page, effects.page, page]) ?_ results
    rw [step_tenancy sounds (page ▸ paged) nows, step_tenancy sound paged now, begin, page, result,
      same.after]

/-! Storage -/

theorem Region.refreshed_eq_iff : region.refreshed memory = region.refreshed further ↔
    ∀ address, region.Unwritten address → memory address = further address := by
  unfold Region.refreshed
  rw [Memory.read_eq, Memory.read_eq, List.map_inj_left]
  constructor
  · rintro same address ⟨low, high, outside⟩
    have there := same (address - region.storageStart) (List.mem_range.mpr (by omega))
    rw [Nat.add_sub_cancel' low, Context.store, Context.store, Memory.get_write, Memory.get_write,
      if_neg outside, if_neg outside] at there
    exact there
  · intro same i inside
    have bound := List.mem_range.mp inside
    rw [Context.store, Context.store, Memory.get_write, Memory.get_write]
    split
    · rfl
    · exact same _ ⟨by omega, by omega, by assumption⟩

theorem allocate_zero {held : Holdings} {machine after : Machine} {taken : ThreadMemory}
    {address : Nat} (sound : Ownership held machine) (lawful : answers.Lawful machine)
    (done : ThreadMemory.allocate (request.sizing.rounded machine.page) answers machine =
      (.ok taken, after)) (unwritten : taken.region.Unwritten address) : after.memory address = 0 := by
  have filled := (allocate_mapped done).2
  rcases allocate_outcome request.sizing sound lawful with
    ⟨error, asked, failed, -⟩ | ⟨region, reached, had, -, vacant, -⟩
  · cases failed.symm.trans done
  · cases had.symm.trans done
    have inside := Region.storage_inside vacant.placed
    obtain ⟨low, high, -⟩ := unwritten
    simp only [Region.storageStart] at inside low high
    rw [filled]
    dsimp only [Memory.fill]
    exact Memory.write_inside _ _ (by omega) (by omega)

theorem release_bytes (taken : ThreadMemory) (machine : Machine) :
    (taken.release machine).memory = machine.memory := by
  rw [ThreadMemory.release, withdraw_rest]
  rfl

theorem create_leaves {system : System} (sound : Sound system)
    (paged : Pages.Real system.machine.page) (lawful : answers.Lawful system.machine)
    (returned : (system.step (.call name (.create request caller answers))).2 = .returned) :
    ∃ region, system.tenancy.granted? system.machine.page name request answers = some region ∧
      (system.step (.call name (.create request caller answers))).1.tenancy.region name =
          some region ∧
        (system.step (.call name (.create request caller answers))).1.readable name =
          some (region.refreshed (system.inherited name request)) := by
  cases waiting : system.joining name with
  | some joining =>
    rw [System.step, waiting] at returned
    cases returned
  | none =>
    rw [System.step_call waiting, System.call] at returned ⊢
    rcases create_total request answers (system.handles name) system.machine with
      ⟨cause, failure⟩ | ⟨reused, taken, between, prepares⟩
    · obtain ⟨after, failed, -⟩ := failure.create caller lawful
      rw [System.create, failed] at returned
      cases returned
    · have mine : system.held (.handle name) = (system.handles name).memory := rfl
      obtain ⟨made, done, readable⟩ :=
        prepares.made caller (prepares.roomy sound.ownership mine paged lawful)
      obtain ⟨again, granted⟩ := prepares.granted
      rw [System.create, done]
      refine ⟨taken.region, granted, ?_, ?_⟩
      · rw [System.tenancy_withHandle]
        exact Cells.set_same ..
      · rw [System.readable, System.inherited, again]
        simp only [System.withHandle, Cells.set_same, readable, Option.some.injEq]
        rw [Region.refreshed_eq_iff]
        intro address unwritten
        cases prepares with
        | reused idle has fits => rfl
        | fresh idle nothing asked => exact allocate_zero sound.ownership lawful asked unwritten
        | replaced idle had small asked =>
          rw [release_bytes]
          exact allocate_zero sound.ownership lawful asked unwritten

end

/-- Two histories of the same moves, which come to the same, with functions of any kind; and the same
create, which returns in both. -/
structure Histories (start : System) (moves others : List Move) (name : Nat)
    (request : CreateRequest) (caller : Caller) (answers : MemoryAnswers) : Prop where
  fresh : start.Fresh
  paged : Pages.Real start.machine.page
  lawful : System.LawfulRun moves start
  otherLawful : System.LawfulRun others start
  alike : List.Forall₂ Move.Alike moves others
  results : start.results others = start.results moves
  answered : answers.Lawful (start.run moves).machine
  otherAnswered : answers.Lawful (start.run others).machine
  returned : ((start.run moves).step (.call name (.create request caller answers))).2 = .returned
  returns : ((start.run others).step (.call name (.create request caller answers))).2 = .returned

structure CreatedAlike (name : Nat) (request : CreateRequest) (first second one both : System) :
    Prop where
  region : ∃ region : Region,
    one.tenancy.region name = some region ∧ both.tenancy.region name = some region ∧
      one.readable name = some (region.refreshed (first.inherited name request)) ∧
      both.readable name = some (region.refreshed (second.inherited name request))
  fresh : first.tenancy.reused? first.machine.page name request = none →
    both.readable name = one.readable name
  reused : ∀ {region : Region},
    first.tenancy.reused? first.machine.page name request = some region →
    (both.readable name = one.readable name ↔ ∀ address, region.Unwritten address →
      second.machine.memory address = first.machine.memory address)

/-- After histories that differ only in what the threads have done, and the same create, the storage of
a handle is the same if the region is new. A region that is used again keeps what the threads have
written, and then the storage is the same only if that was. -/
theorem recreated_storage {start : System} {moves others : List Move} {name : Nat}
    {request : CreateRequest} {caller : Caller} {answers : MemoryAnswers}
    (histories : Histories start moves others name request caller answers) :
    CreatedAlike name request (start.run moves) (start.run others)
      ((start.run moves).step (.call name (.create request caller answers))).1
      ((start.run others).step (.call name (.create request caller answers))).1 := by
  obtain ⟨fresh, paged, lawful, otherLawful, alike, results, answered, otherAnswered, returned,
    returns⟩ := histories
  have begins := Sound.fresh fresh
  obtain ⟨tenancy, page⟩ :=
    run_tenancy alike begins begins paged lawful otherLawful rfl rfl results
  have sound := run_sound begins lawful
  have sounds := run_sound begins otherLawful
  have pages := run_paged begins paged lawful
  have otherPages := run_paged begins paged otherLawful
  obtain ⟨region, granted, here, readable⟩ := create_leaves sound pages answered returned
  obtain ⟨further, grants, there, readables⟩ :=
    create_leaves sounds otherPages otherAnswered returns
  rw [tenancy, page, granted, Option.some.injEq] at grants
  subst grants
  refine ⟨⟨region, here, there, readable, readables⟩, ?_, ?_⟩
  · intro nothing
    rw [readable, readables, System.inherited, System.inherited, tenancy, page, nothing]
    rfl
  · intro known again
    obtain rfl : known = region := by
      rw [Tenancy.granted?, again] at granted
      exact Option.some.inj granted
    rw [readable, readables, Option.some.injEq, Region.refreshed_eq_iff, System.inherited,
      System.inherited, tenancy, page, again]
    rfl

def ThreadFunction.mark (byte : UInt8) : ThreadFunction where
  label := "mark"
  body size := .allocator fun allocator => .resize allocator none 0 size fun
    | none => .done 0
    | some block => .write block size (fun _ => byte) (.done 0)

def System.marked (byte : UInt8) : List Move :=
  [.call 0 (.create ⟨.mark byte, 8, some .standard, {}⟩ ⟨0, 0⟩ (.upTo 65536 (2 ^ 30))),
    .call 0 (.start ⟨0, 0⟩ ⟨5, 5⟩)] ++ List.replicate 10 (.thread 331520 fun _ => none) ++
    [.call 0 (.stop none ⟨0⟩), .join 0 ⟨0⟩ none, .join 0 ⟨0⟩ none]

def CreateRequest.plain : CreateRequest := ⟨.identity, 1, some .standard, {}⟩

def MemoryAnswers.refusing : MemoryAnswers := { map := fun _ => .error .outOfMemory }

theorem marked_lawful (byte : UInt8) : System.LawfulRun (System.marked byte) {} := by
  have first : (MemoryAnswers.upTo 65536 (2 ^ 30)).Lawful {} :=
    MemoryAnswers.upTo_lawful (by decide) (by decide) nofun
  exact ⟨first, ⟨by decide, by decide⟩, System.lawful_of_any (by simp [Move.Lawful])⟩

theorem marked_histories :
    Histories {} (System.marked 7) (System.marked 0) 0 .plain ⟨0, 0⟩ .refusing where
  fresh := ⟨fun _ => rfl, rfl, rfl, fun _ => rfl, rfl, rfl⟩
  paged := ⟨12, by decide, by decide, rfl⟩
  lawful := marked_lawful 7
  otherLawful := marked_lawful 0
  alike := .cons (.create 0 ⟨.mark 7, 8, some .standard, {}⟩ (.mark 0) ..)
    (List.forall₂_same.mpr fun move _ => .same move)
  results := by decide +kernel
  answered := nofun
  otherAnswered := nofun
  returned := by decide +kernel
  returns := by decide +kernel

theorem recreated_storage_marked :
    Histories {} (System.marked 7) (System.marked 0) 0 .plain ⟨0, 0⟩ .refusing ∧
      CreatedAlike 0 .plain (System.run (System.marked 7) {}) (System.run (System.marked 0) {})
        ((System.run (System.marked 7) {}).step (.call 0 (.create .plain ⟨0, 0⟩ .refusing))).1
        ((System.run (System.marked 0) {}).step (.call 0 (.create .plain ⟨0, 0⟩ .refusing))).1 :=
  ⟨marked_histories, recreated_storage marked_histories⟩

theorem storage_remembered : ¬∀ (start : System) (moves others : List Move) (name : Nat)
    (request : CreateRequest) (caller : Caller) (answers : MemoryAnswers),
      Histories start moves others name request caller answers →
        ((start.run others).step (.call name (.create request caller answers))).1.readable name =
          ((start.run moves).step (.call name (.create request caller answers))).1.readable name := by
  intro law
  have same := law {} (System.marked 7) (System.marked 0) 0 .plain ⟨0, 0⟩ .refusing
    marked_histories
  have sevens : (((System.run (System.marked 7) {}).step (.call 0 (.create .plain ⟨0, 0⟩
      .refusing))).1.readable 0).map (·[16]?) = some (some 7) := by decide +kernel
  have zeroes : (((System.run (System.marked 0) {}).step (.call 0 (.create .plain ⟨0, 0⟩
      .refusing))).1.readable 0).map (·[16]?) = some (some 0) := by decide +kernel
  rw [same, sevens] at zeroes
  cases zeroes

end ArenaThreads
