import ArenaThreads.Proofs.Process.Creation
import ArenaThreads.Proofs.Process.Soundness
/-!
What one move can do to a sound process, as a list of cases: who has which memory afterwards, which
control block changes and how, and what the move shows of the thread of a handle.
-/

namespace ArenaThreads

/-- What is seen of the thread of a handle: a start has succeeded, its function has returned, the
kernel has cleared the join word, a stop has waited for it. -/
inductive Sight
  | launched
  | returned (value : Nat)
  | cleared
  | joined
  deriving DecidableEq, Repr

def Stage.sight? : Stage → Option Sight
  | .running (.done value) => some (.returned value)
  | .exiting => some .cleared
  | _ => none

def Joining.Ends (purpose : JoinPurpose) (result : Except Error Unit) (joining : Joining) : Prop :=
  joining.purpose = purpose ∧ joining.asleep = false ∧ joining.join.phase = .finished result

instance (purpose : JoinPurpose) (result : Except Error Unit) (joining : Joining) :
    Decidable (joining.Ends purpose result) :=
  inferInstanceAs (Decidable (_ ∧ _ ∧ _))

def Move.sight? (name : Nat) (system : System) : Move → Option Sight
  | .call other (.start caller answers) =>
    if other = name ∧ (system.step (.call other (.start caller answers))).2 = .returned then
      some .launched
    else none
  | .thread block _ =>
    if (system.handles name).memory.map ThreadMemory.block = some block then
      (system.threadAt? block).bind fun thread => thread.stage.sight?
    else none
  | .join other _ _ =>
    if other = name ∧ (system.joining name).any fun joining => joining.Ends .stop (.ok ()) then
      some .joined
    else none
  | _ => none

def Move.Silent (system : System) (move : Move) : Prop := ∀ name, move.sight? name system = none

/-- A move that ends with other memory for a handle, or none, as it was asked to. -/
def Move.Replaces (name : Nat) (system : System) : Move → Prop
  | .call other (.create request caller answers) =>
    other = name ∧ (system.step (.call other (.create request caller answers))).2 = .returned
  | .call other .destroy => other = name ∧ (system.step (.call other .destroy)).2 = .returned
  | .call other .drop => other = name ∧ (system.step (.call other .drop)).2 = .returned
  | .join other _ _ =>
    other = name ∧ ∃ joining result, system.joining name = some joining ∧ joining.Ends .drop result
  | _ => False

def System.idle (name : Nat) (system : System) : System := system.withJoining name none

inductive Effect (system : System) (move : Move) : System → Prop
  | waited (wakes : List Nat) (joining : Cells Nat (Option Joining))
    (waits : ∀ {name waiting}, joining name = some waiting → Waits name waiting system)
    (silent : move.Silent system) :
    Effect system move { system with wakes := wakes, joining := joining }
  | kept {name : Nat} {after : Machine} (keeps : Keeps system.held system.machine after)
    (silent : move.Silent system) : Effect system move { system.idle name with machine := after }
  | rehoused {name : Nat} {handle : Handle} {state : Lifecycle} {after : Machine}
    (gone : ∀ {memory}, (system.handles name).memory = some memory →
      (system.machine.blocks memory.block).joinWord = 0)
    (moved : Rehouses (.handle name) system.held system.machine handle.memory after)
    (represents : Represents after handle state) (idle : handle.isLive = false)
    (replaces : move.Replaces name system) (silent : move.Silent system) :
    Effect system move ((system.idle name).withHandle name handle after)
  | lost {name : Nat} {after : Machine}
    (gone : ∀ {memory}, (system.handles name).memory = some memory →
      (system.machine.blocks memory.block).joinWord = 0)
    (moved : Rehouses (.handle name) system.held system.machine none after)
    (tight : ∃ size, 0 < size ∧
      Pages.round system.machine.page size < Context.size + Arena.alignment)
    (silent : move.Silent system) :
    Effect system move ((system.idle name).withHandle name .empty after)
  | refused {name : Nat} {memory : ThreadMemory} {after : Machine}
    (has : (system.handles name).memory = some memory)
    (created : (system.handles name).Created (system.machine.blocks memory.block))
    (steady : Steady memory.block system.machine after)
    (block : ∃ arguments, after.blocks memory.block =
      { system.machine.blocks memory.block with joinWord := 0, arguments := arguments })
    (quiet : Quiet system.machine after) (silent : move.Silent system) :
    Effect system move ((system.idle name).withHandle name (system.handles name) after)
  | launched {name id home : Nat} {memory : ThreadMemory} {after : Machine}
    (has : (system.handles name).memory = some memory)
    (created : (system.handles name).Created (system.machine.blocks memory.block))
    (real : 0 < id) (steady : Steady memory.block system.machine after)
    (block : ∃ arguments, after.blocks memory.block =
      { system.machine.blocks memory.block with joinWord := id, arguments := arguments })
    (quiet : Quiet system.machine after) (seen : move.sight? name system = some .launched)
    (alone : ∀ other, other ≠ name → move.sight? other system = none) :
    Effect system move
      { (system.idle name).withHandle name
          { system.handles name with id := id, launched := true } after with
        threads := system.threads ++ [.launched memory.region home] }
  | joined {name : Nat} {memory : ThreadMemory} {after : Machine}
    (has : (system.handles name).memory = some memory)
    (live : (system.handles name).Live (system.machine.blocks memory.block))
    (gone : (system.machine.blocks memory.block).joinWord = 0)
    (keeps : Keeps system.held system.machine after)
    (seen : move.sight? name system = some .joined)
    (alone : ∀ other, other ≠ name → move.sight? other system = none) :
    Effect system move
      ((system.idle name).withHandle name { system.handles name with joined := true } after)
  | abandoned {name : Nat} {memory : ThreadMemory} {after : Machine}
    (has : (system.handles name).memory = some memory)
    (keeps : Keeps system.held system.machine after)
    (replaces : move.Replaces name system) (silent : move.Silent system) :
    Effect system move { (system.idle name).withHandle name .empty after with
      abandoned := system.abandoned ++ [memory] }
  | stepped {owner : Owner} {memory : ThreadMemory} {thread : RuntimeThread}
    {stage : Option Stage} {after : Machine} {answers : HeapAnswers}
    (mine : system.held owner = some memory)
    (found : system.threadAt? memory.block = some thread)
    (steady : Steady memory.block system.machine after)
    (advance : Advance (system.machine.blocks memory.block) thread.stage stage
      (after.blocks memory.block))
    (asked : move = .thread memory.block answers) :
    Effect system move ({ system with machine := after }.withStage memory.block stage)

section

variable {system : System} {move : Move} {name : Nat}

theorem System.idle_eq (free : system.joining name = none) : system.idle name = system := by
  rw [System.idle, System.withJoining, ← free, Cells.set_self]

theorem System.withHandle_same (machine : Machine) :
    system.withHandle name (system.handles name) machine = { system with machine := machine } := by
  rw [System.withHandle, Cells.set_self]

theorem Effect.nothing (sound : Sound system) (silent : move.Silent system) :
    Effect system move system :=
  .waited system.wakes system.joining sound.waiting silent

theorem Effect.failed {after : Machine} (keeps : Keeps system.held system.machine after)
    (silent : move.Silent system) :
    Effect system move ((system.idle name).withHandle name (system.handles name) after) := by
  have same : (system.idle name).withHandle name (system.handles name) after =
      { system.idle name with machine := after } := System.withHandle_same after
  rw [same]
  exact .kept keeps silent

theorem Effect.still {after : Machine} (free : system.joining name = none)
    (keeps : Keeps system.held system.machine after) (silent : move.Silent system) :
    Effect system move (system.withHandle name (system.handles name) after) := by
  have effect : Effect system move ((system.idle name).withHandle name (system.handles name) after) :=
    .failed keeps silent
  rwa [System.idle_eq free] at effect

theorem Effect.released {memory : ThreadMemory} {between : Machine}
    (keeps : Keeps system.held system.machine between)
    (has : (system.handles name).memory = some memory)
    (gone : (system.machine.blocks memory.block).joinWord = 0)
    (replaces : move.Replaces name system) (silent : move.Silent system) :
    Effect system move ((system.idle name).withHandle name .empty (memory.release between)) := by
  have mine : system.held (.handle name) = some memory := has
  have released := release_rehouses keeps.sound (.mine mine)
  have moved := (keeps.rehouses (.handle name)).trans (by rwa [Cells.set_self])
  refine .rehoused ?_ moved (.empty rfl) rfl replaces silent
  intro joining holds
  cases holds.symm.trans has
  exact gone

theorem Effect.awaits {waits : Option Joining} (wakes : List Nat) (sound : Sound system)
    (waiting : ∀ {joining}, waits = some joining → Waits name joining system)
    (silent : move.Silent system) :
    Effect system move { system.withJoining name waits with wakes := wakes } :=
  .waited wakes _ (sound.waits_at waiting) silent

theorem Effect.waits {purpose : JoinPurpose} (timeout : Option Duration) (now : Instant)
    (sound : Sound system) (live : (system.handles name).isLive = true)
    (silent : move.Silent system) :
    Effect system move
      (system.withJoining name (some ⟨purpose, Join.start timeout now, false⟩)) := by
  refine .awaits system.wakes sound ?_ silent
  intro joining waiting
  cases waiting
  refine ⟨live, ?_⟩
  intro finished
  cases finished

end

end ArenaThreads
