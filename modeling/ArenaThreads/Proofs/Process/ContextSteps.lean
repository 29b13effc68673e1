import ArenaThreads.Proofs.Process.Advance
/-!
What the steps of a thread leave of contexts: a thread that finds its own control block with a context
in it leaves thread-local memory alone, and behind it the context that it should.
-/

namespace ArenaThreads

def Stage.leaves (block : ControlBlock) : Stage → Nat
  | .entering => block.context
  | .running (.setCurrent context _) => context
  | _ => block.current

def Stage.Writes : Stage → Prop
  | .running (.resize ..) | .running (.fillUp ..) | .running (.write ..) => True
  | _ => False

section

variable {machine after : Machine} {caller : Caller} {place : Nat} {answers : HeapAnswers}

theorem contextAt_congr {before after : Machine} {address : Nat}
    (bytes : ∀ i, i < Context.size → after.memory (address + i) = before.memory (address + i)) :
    after.contextAt address = before.contextAt address := by
  rw [Machine.contextAt, Machine.contextAt, Context.load, Context.load, Memory.read_eq,
    Memory.read_eq]
  congr 1
  apply List.map_congr_left
  intro i inside
  exact bytes i (List.mem_range.mp inside)

theorem setCurrent_memory (context : Nat) :
    (machine.setCurrent caller context).2.memory = machine.memory := by
  unfold Machine.setCurrent
  split
  · rfl
  · dsimp only
    split <;> rfl

theorem setCurrent_slot (context : Nat) (slot : machine.slot caller = some place)
    (real : (machine.blocks place).current ≠ 0) :
    machine.setCurrent caller context =
      ((machine.blocks place).current, machine.setSlot place context) := by
  rw [Machine.setCurrent, slot]
  exact if_pos real

theorem current_slot (slot : machine.slot caller = some place)
    (real : (machine.blocks place).current ≠ 0) :
    machine.current caller = (machine.blocks place).current := by
  rw [Machine.current, slot]
  exact if_neg real

theorem setCurrent_home (context : Nat) (home : machine.slot caller = none) :
    machine.setCurrent caller context =
      (machine.current caller, machine.setThreadLocal caller context) := by
  rw [Machine.setCurrent, home]

theorem current_home (home : machine.slot caller = none) :
    machine.current caller = machine.threadLocalContext caller := by
  rw [Machine.current, home]

theorem resize_threadLocal (allocator : Allocator) (block : Option Nat) (oldSize newSize : Nat) :
    (machine.resize allocator block oldSize newSize answers).2.threadLocal = machine.threadLocal := by
  unfold Machine.resize Machine.heapRequest
  repeat' split
  all_goals rfl

theorem fillUp_threadLocal (allocator : Allocator) (size : Nat) :
    (machine.fillUp allocator size).2.threadLocal = machine.threadLocal := by
  unfold Machine.fillUp
  split <;> rfl

structure Leaves (place current : Nat) (before after : Machine) : Prop where
  threadLocal : after.threadLocal = before.threadLocal
  current : (after.blocks place).current = current
  context : (after.blocks place).context = (before.blocks place).context

theorem Leaves.updateBlock {change : ControlBlock → ControlBlock}
    (context : (change (machine.blocks place)).context = (machine.blocks place).context) :
    Leaves place (change (machine.blocks place)).current machine
      (machine.updateBlock place change) := by
  have same := @updateBlock_same machine place change
  constructor
  · rfl
  · rw [same]
  · rw [same, context]

theorem runStep_leaves {rest next : Routine}
    (stepped : machine.runStep caller answers rest = some (next, after))
    (slot : machine.slot caller = some place) (real : (machine.blocks place).current ≠ 0) :
    Leaves place (Stage.leaves (machine.blocks place) (.running rest)) machine after := by
  have still {after : Machine} (spares : SparesBlocks machine after)
      (threadLocal : after.threadLocal = machine.threadLocal) :
      Leaves place (machine.blocks place).current machine after := by
    constructor
    · exact threadLocal
    · rw [spares.blocks]
    · rw [spares.blocks]
  cases rest with
  | done result => cases stepped
  | current continuation =>
    cases stepped
    exact still ⟨rfl, rfl, rfl, rfl⟩ rfl
  | setCurrent context continuation =>
    have reached : (machine.setCurrent caller context).2 = after :=
      (Prod.mk.inj (Option.some.inj stepped)).2
    rw [setCurrent_slot context slot real] at reached
    subst reached
    exact @Leaves.updateBlock machine place (fun block => { block with current := context }) rfl
  | resize allocator block oldSize newSize continuation =>
    cases stepped
    exact still (resize_spares allocator block oldSize newSize)
      (resize_threadLocal allocator block oldSize newSize)
  | fillUp allocator size continuation =>
    cases stepped
    exact still (fillUp_spares allocator size) (fillUp_threadLocal allocator size)
  | read start length continuation =>
    cases stepped
    exact still ⟨rfl, rfl, rfl, rfl⟩ rfl
  | write start length bytes continuation =>
    cases stepped
    exact still ⟨rfl, rfl, rfl, rfl⟩ rfl
  | share act continuation =>
    obtain ⟨shared, -, same⟩ := Option.map_eq_some_iff.mp stepped
    cases same
    exact still ⟨rfl, rfl, rfl, rfl⟩ rfl

theorem step_memory {thread : RuntimeThread} {stage : Option Stage}
    (stepped : thread.step answers machine = some (stage, after)) (quiet : ¬thread.stage.Writes) :
    after.memory = machine.memory := by
  rcases thread with ⟨region, caller, current⟩
  cases current with
  | running rest =>
    cases rest with
    | resize | fillUp | write => exact absurd trivial quiet
    | done result =>
      cases stepped
      rfl
    | current next =>
      cases stepped
      rfl
    | setCurrent context next =>
      cases stepped
      exact setCurrent_memory context
    | read start length next =>
      cases stepped
      rfl
    | share act next =>
      rw [RuntimeThread.step] at stepped
      obtain ⟨⟨rest, reached⟩, ran, same⟩ := Option.map_eq_some_iff.mp stepped
      cases same
      obtain ⟨shared, -, same⟩ := Option.map_eq_some_iff.mp ran
      cases same
      rfl
  | _ =>
    cases stepped
    rfl

/-- Every step of a thread that finds its own control block, with a context in it from its first step
on, leaves the context that it should and no other. -/
theorem step_leaves {thread : RuntimeThread} {stage : Option Stage}
    (stepped : thread.step answers machine = some (stage, after))
    (slot : machine.slot thread.caller = some thread.block)
    (real : thread.stage ≠ .entering → (machine.blocks thread.block).current ≠ 0) :
    Leaves thread.block (thread.stage.leaves (machine.blocks thread.block)) machine after := by
  rcases thread with ⟨region, caller, current⟩
  cases current with
  | running rest =>
    have entered : Stage.running rest ≠ .entering := nofun
    cases rest with
    | done result =>
      cases stepped
      exact ⟨rfl, rfl, rfl⟩
    | _ =>
      rw [RuntimeThread.step] at stepped
      obtain ⟨⟨next, reached⟩, ran, same⟩ := Option.map_eq_some_iff.mp stepped
      cases same
      exact runStep_leaves ran slot (real entered)
  | entering =>
    cases stepped
    exact @Leaves.updateBlock machine _ (fun block => { block with current := block.context }) rfl
  | announcing =>
    cases stepped
    exact @Leaves.updateBlock machine _ (fun block => { block with state := .running }) rfl
  | returning result =>
    cases stepped
    exact @Leaves.updateBlock machine _ (fun block => { block with result := result }) rfl
  | stopping =>
    cases stepped
    exact @Leaves.updateBlock machine _ (fun block => { block with state := .stopped }) rfl
  | exiting =>
    cases stepped
    exact @Leaves.updateBlock machine _ (fun block => { block with joinWord := 0 }) rfl

end

end ArenaThreads
