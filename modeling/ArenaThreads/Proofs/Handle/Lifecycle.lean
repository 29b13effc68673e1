import ArenaThreads.Handle
import ArenaThreads.Proofs.Registry.Links
/-!
The four states of a handle, as its fields and the words of its control block represent them:
without a thread, with one that is not started, with one that is started and not joined, and with
one that is joined.
-/

namespace ArenaThreads

inductive Lifecycle
  | empty
  | created
  | live
  | joined
  deriving DecidableEq, Repr

namespace Handle

structure Filled (handle : Handle) (block : ControlBlock) : Prop where
  function : handle.function = some block.function
  argument : handle.argument = block.argument

structure Created (handle : Handle) (block : ControlBlock) : Prop extends Filled handle block where
  launched : handle.launched = false
  joined : handle.joined = false
  id : handle.id = 0
  state : block.state = .ready
  word : block.joinWord = 0
  result : block.result = 0

/-- The join word holds the thread's id until the thread, which is then stopped, is gone. -/
structure Live (handle : Handle) (block : ControlBlock) : Prop extends Filled handle block where
  launched : handle.launched = true
  joined : handle.joined = false
  id : 0 < handle.id
  word : block.joinWord = handle.id ∨ block.joinWord = 0 ∧ block.state = .stopped

structure Joined (handle : Handle) (block : ControlBlock) : Prop extends Filled handle block where
  launched : handle.launched = true
  joined : handle.joined = true
  id : 0 < handle.id
  state : block.state = .stopped
  word : block.joinWord = 0

end Handle

inductive Represents (machine : Machine) (handle : Handle) : Lifecycle → Prop
  | empty (nothing : handle = .empty) : Represents machine handle .empty
  | created {memory : ThreadMemory} (has : handle.memory = some memory)
    (created : handle.Created (machine.blocks memory.block)) : Represents machine handle .created
  | live {memory : ThreadMemory} (has : handle.memory = some memory)
    (live : handle.Live (machine.blocks memory.block)) : Represents machine handle .live
  | joined {memory : ThreadMemory} (has : handle.memory = some memory)
    (joined : handle.Joined (machine.blocks memory.block)) : Represents machine handle .joined

def Handle.lifecycle (handle : Handle) : Lifecycle :=
  if handle.memory.isNone then .empty
  else if !handle.launched then .created
  else if !handle.joined then .live
  else .joined

section

variable {machine before after : Machine} {handle : Handle} {state other : Lifecycle}
  {memory : ThreadMemory} {block : ControlBlock}

theorem Represents.lifecycle (represents : Represents machine handle state) :
    handle.lifecycle = state := by
  cases represents with
  | empty nothing => subst nothing; rfl
  | created has created => simp [Handle.lifecycle, has, created.launched]
  | live has live => simp [Handle.lifecycle, has, live.launched, live.joined]
  | joined has joined => simp [Handle.lifecycle, has, joined.launched, joined.joined]

theorem Represents.unique (first : Represents machine handle state)
    (second : Represents machine handle other) : state = other :=
  first.lifecycle.symm.trans second.lifecycle

theorem Represents.isLive (represents : Represents machine handle state) :
    handle.isLive = true ↔ state = .live := by
  cases represents with
  | empty nothing => subst nothing; simp [Handle.isLive, Handle.empty]
  | created has created => simp [Handle.isLive, created.launched]
  | live has live => simp [Handle.isLive, live.launched, live.joined]
  | joined has joined => simp [Handle.isLive, joined.joined]

theorem Represents.idle (represents : Represents machine handle state) (idle : state ≠ .live) :
    handle.isLive = false :=
  Bool.eq_false_iff.mpr fun live => idle (represents.isLive.mp live)

theorem Represents.word (represents : Represents machine handle state)
    (idle : handle.isLive = false) (has : handle.memory = some memory) :
    (machine.blocks memory.block).joinWord = 0 := by
  cases represents with
  | empty nothing => subst nothing; cases has
  | created holds created =>
    cases holds.symm.trans has
    exact created.word
  | live holds live =>
    simp [Handle.isLive, live.launched, live.joined] at idle
  | joined holds joined =>
    cases holds.symm.trans has
    exact joined.word

theorem Represents.filled (represents : Represents machine handle state)
    (has : handle.memory = some memory) : handle.Filled (machine.blocks memory.block) := by
  cases represents with
  | empty nothing => subst nothing; cases has
  | created holds created =>
    cases holds.symm.trans has
    exact created.toFilled
  | live holds live =>
    cases holds.symm.trans has
    exact live.toFilled
  | joined holds joined =>
    cases holds.symm.trans has
    exact joined.toFilled

theorem Represents.joined_of_flag (represents : Represents machine handle state)
    (flag : handle.joined = true) (has : handle.memory = some memory) :
    handle.Joined (machine.blocks memory.block) := by
  cases represents with
  | empty nothing => subst nothing; cases has
  | created _ created => cases created.joined.symm.trans flag
  | live _ live => cases live.joined.symm.trans flag
  | joined holds joined =>
    cases holds.symm.trans has
    exact joined

theorem Handle.empty_of_no_memory (represents : Represents machine handle state)
    (nothing : handle.memory = none) : handle = .empty := by
  cases represents with
  | empty empty => exact empty
  | created has _ => cases has.symm.trans nothing
  | live has _ => cases has.symm.trans nothing
  | joined has _ => cases has.symm.trans nothing

/-- What a handle represents depends on its own control block only, and not on where that is
linked. -/
theorem Represents.transport (represents : Represents before handle state)
    (same : ∀ memory, handle.memory = some memory →
      (after.blocks memory.block).detached = (before.blocks memory.block).detached) :
    Represents after handle state := by
  have fields {memory : ThreadMemory} (has : handle.memory = some memory) :=
    ControlBlock.detached_fields (same memory has)
  cases represents with
  | empty nothing => exact .empty nothing
  | created has created =>
    obtain ⟨function, argument, result, word, state⟩ := fields has
    refine .created has ⟨⟨?_, ?_⟩, created.launched, created.joined, created.id, ?_, ?_, ?_⟩
    · rw [function, created.function]
    · rw [argument, created.argument]
    · rw [state, created.state]
    · rw [word, created.word]
    · rw [result, created.result]
  | live has live =>
    obtain ⟨function, argument, -, word, state⟩ := fields has
    refine .live has ⟨⟨?_, ?_⟩, live.launched, live.joined, live.id, ?_⟩
    · rw [function, live.function]
    · rw [argument, live.argument]
    · rw [word, state]
      exact live.word
  | joined has joined =>
    obtain ⟨function, argument, -, word, state⟩ := fields has
    refine .joined has ⟨⟨?_, ?_⟩, joined.launched, joined.joined, joined.id, ?_, ?_⟩
    · rw [function, joined.function]
    · rw [argument, joined.argument]
    · rw [state, joined.state]
    · rw [word, joined.word]

end

end ArenaThreads
