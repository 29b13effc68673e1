import ArenaThreads.Proofs.Process.Bystanders
import ArenaThreads.Proofs.Process.Counterparts
/-!
Two threads that run the same function, in two regions of one layout. At each stage of the one the
other one is at the same stage, and what both have seen and left corresponds.
-/

namespace ArenaThreads

structure Setting.Poised (setting : Setting) (first second : Machine) : Prop where
  abreast : Abreast setting first second
  meets : Memory.Meets setting.region setting.other setting.initial first.memory second.memory

/-- Stages at which two threads have done the same. -/
inductive Stage.Matches (setting : Setting) (first second : Machine) : Stage → Stage → Prop
  | entering (poised : setting.Poised first second) : Matches setting first second .entering .entering
  | announcing (holds : setting.beginning.Hold setting first second) :
      Matches setting first second .announcing .announcing
  | running {rest others : Routine} {sides : Sides} (goes : rest.Matches setting others sides)
      (holds : sides.Hold setting first second) :
      Matches setting first second (.running rest) (.running others)
  | returning {result other : Nat} (same : setting.SameWord result other) :
      Matches setting first second (.returning result) (.returning other)
  | stopping : Matches setting first second .stopping .stopping
  | exiting : Matches setting first second .exiting .exiting

structure ControlBlock.Twin (setting : Setting) (body : Routine) (block other : ControlBlock) :
    Prop where
  routine : block.routine = body
  others : other.routine = body
  word : other.joinWord = block.joinWord
  state : other.state = block.state
  result : setting.SameWord block.result other.result

structure Calm (before after : Machine) : Prop where
  arenas : after.arenas = before.arenas
  bytes : after.memory = before.memory
  shared : after.shared = before.shared

section

variable {setting : Setting} {body : Routine} {handle : Handle} {name counterpart : Nat}
  {first second : System} {one both after others : Machine} {thread fellow : RuntimeThread}
  {other : Region} {answers : HeapAnswers} {sides : Sides}

/-! What a function cannot see -/

theorem Calm.emit (event : Event) (machine : Machine) : Calm machine (machine.emit event) :=
  ⟨rfl, rfl, rfl⟩

theorem Calm.updateBlock (block : Nat) (change : ControlBlock → ControlBlock) (machine : Machine) :
    Calm machine (machine.updateBlock block change) := ⟨rfl, rfl, rfl⟩

theorem Abreast.calm (abreast : Abreast setting one both) (first : Calm one after)
    (second : Calm both others) : Abreast setting after others := by
  constructor
  · rw [first.shared, second.shared]
    exact abreast.shared
  · rw [first.arenas, second.arenas]
    exact abreast.arenas

theorem Setting.Poised.calm (poised : setting.Poised one both) (first : Calm one after)
    (second : Calm both others) : setting.Poised after others := by
  refine ⟨poised.abreast.calm first second, ?_⟩
  rw [first.bytes, second.bytes]
  exact poised.meets

theorem Sides.Hold.calm (holds : sides.Hold setting one both) (first : Calm one after)
    (second : Calm both others)
    (current : (after.blocks setting.region.block).current =
      (one.blocks setting.region.block).current)
    (currents : (others.blocks setting.other.block).current =
      (both.blocks setting.other.block).current) : sides.Hold setting after others := by
  refine ⟨holds.abreast.calm first second, ?_, current.trans holds.current,
    currents.trans holds.others, holds.real⟩
  rw [first.bytes, second.bytes]
  exact holds.meets

theorem Stage.Matches.calm {stage next : Stage} (same : stage.Matches setting one both next)
    (first : Calm one after) (second : Calm both others)
    (current : (after.blocks setting.region.block).current =
      (one.blocks setting.region.block).current)
    (currents : (others.blocks setting.other.block).current =
      (both.blocks setting.other.block).current) : stage.Matches setting after others next := by
  cases same with
  | entering poised => exact .entering (poised.calm first second)
  | announcing holds => exact .announcing (holds.calm first second current currents)
  | running goes holds => exact .running goes (holds.calm first second current currents)
  | returning same => exact .returning same
  | stopping => exact .stopping
  | exiting => exact .exiting

/-! One step of two threads -/

theorem runStep_known {caller : Caller} {rest next : Routine}
    (stepped : one.runStep caller answers rest = some (next, after)) :
    after.cloneMissing = one.cloneMissing := by
  cases rest with
  | done result => cases stepped
  | current continuation | read start length continuation | write start length bytes continuation =>
    cases stepped
    rfl
  | setCurrent context continuation =>
    cases stepped
    split
    · rfl
    · dsimp only
      split <;> rfl
  | resize allocator block oldSize newSize continuation =>
    cases stepped
    unfold Machine.heapRequest
    repeat' split
    all_goals rfl
  | fillUp allocator size continuation =>
    cases stepped
    split <;> rfl
  | share act continuation =>
    obtain ⟨shared, -, same⟩ := Option.map_eq_some_iff.mp stepped
    cases same
    rfl

theorem step_known {stage : Option Stage}
    (stepped : thread.step answers one = some (stage, after)) :
    after.cloneMissing = one.cloneMissing := by
  unfold RuntimeThread.step at stepped
  split at stepped
  case h_4 rest more now =>
    obtain ⟨⟨next, reached⟩, ran, same⟩ := Option.map_eq_some_iff.mp stepped
    cases same
    exact runStep_known ran
  all_goals
    cases stepped
    rfl

theorem Routine.Matches.kinds {rest others : Routine} (same : rest.Matches setting others sides) :
    (∃ result further, rest = .done result ∧ others = .done further ∧
      setting.SameWord result further) ∨
    (∀ result, rest ≠ .done result) ∧ ∀ further, others ≠ .done further := by
  cases rest with
  | done result =>
    cases others with
    | done further => exact .inl ⟨result, further, rfl, rfl, same⟩
    | _ => exact same.elim
  | _ =>
    cases others with
    | done further => exact same.elim
    | _ => exact .inr ⟨nofun, nofun⟩

def Abide (setting : Setting) (body : Routine) :
    Option (Option Stage × Machine) → Option (Option Stage × Machine) → Prop :=
  Option.Rel fun one both =>
    Option.Rel (fun stage next => stage.Matches setting one.2 both.2 next) one.1 both.1 ∧
      ControlBlock.Twin setting body (one.2.blocks setting.region.block)
        (both.2.blocks setting.other.block)

theorem Abide.advance {change changes : ControlBlock → ControlBlock} {stage next : Option Stage}
    (stages : Option.Rel (fun stage next => stage.Matches setting
      (one.updateBlock setting.region.block change) (both.updateBlock setting.other.block changes)
        next) stage next)
    (twin : ControlBlock.Twin setting body (change (one.blocks setting.region.block))
      (changes (both.blocks setting.other.block))) :
    Abide setting body (some (stage, one.updateBlock setting.region.block change))
      (some (next, both.updateBlock setting.other.block changes)) := by
  refine .some ⟨stages, ?_⟩
  rw [updateBlock_same, updateBlock_same]
  exact twin

theorem Abide.goesOn (fair : setting.Fair) {rest further : Routine}
    (goes : rest.Matches setting further sides) (holds : sides.Hold setting one both)
    (slot : one.slot thread.caller = some setting.region.block)
    (otherSlot : both.slot fellow.caller = some setting.other.block)
    (clear : ∀ size place, answers size = some place → setting.Clear place size)
    (twin : ControlBlock.Twin setting body (one.blocks setting.region.block)
      (both.blocks setting.other.block)) :
    Abide setting body
      ((one.runStep thread.caller answers rest).map fun reached =>
        (some (.running reached.1), reached.2))
      ((both.runStep fellow.caller answers further).map fun reached =>
        (some (.running reached.1), reached.2)) := by
  have proceed := runStep_matches fair holds slot otherSlot clear goes
  generalize ran : one.runStep thread.caller answers rest = reached at proceed ⊢
  generalize rans : both.runStep fellow.caller answers further = reaches at proceed ⊢
  cases proceed with
  | none => exact .none
  | some went =>
    obtain ⟨sides, going, held⟩ := went
    obtain ⟨-, context, block⟩ := runStep_steady ran slot
    obtain ⟨-, other, blocks⟩ := runStep_steady rans otherSlot
    refine .some ⟨.some (.running going held), ?_⟩
    rw [block, blocks]
    exact ⟨twin.routine, twin.others, twin.word, twin.state, twin.result⟩

/-- Threads that have done the same do the same. -/
theorem step_abides (fair : setting.Fair) (uniform : body.Matches setting body setting.beginning)
    (same : thread.stage.Matches setting one both fellow.stage)
    (here : thread.block = setting.region.block) (there : fellow.block = setting.other.block)
    (slot : one.slot thread.caller = some setting.region.block)
    (otherSlot : both.slot fellow.caller = some setting.other.block)
    (context : (one.blocks setting.region.block).context = setting.region.copy)
    (contexts : (both.blocks setting.other.block).context = setting.other.copy)
    (clear : ∀ size place, answers size = some place → setting.Clear place size)
    (twin : ControlBlock.Twin setting body (one.blocks setting.region.block)
      (both.blocks setting.other.block)) :
    Abide setting body (thread.step answers one) (fellow.step answers both) := by
  have calm (change : ControlBlock → ControlBlock) :
      Calm one (one.updateBlock setting.region.block change) := .updateBlock ..
  have otherCalm (change : ControlBlock → ControlBlock) :
      Calm both (both.updateBlock setting.other.block change) := .updateBlock ..
  generalize now : thread.stage = stage at same
  generalize next : fellow.stage = further at same
  cases same with
  | entering poised =>
    simp only [RuntimeThread.step, now, next, here, there]
    refine .advance (.some (.announcing ?_))
      ⟨twin.routine, twin.others, twin.word, twin.state, twin.result⟩
    have settled := poised.calm (calm fun block => { block with current := block.context })
      (otherCalm fun block => { block with current := block.context })
    refine ⟨settled.abreast, settled.meets, ?_, ?_, ?_⟩
    · rw [updateBlock_same]
      exact context
    · rw [updateBlock_same]
      exact contexts
    · exact ⟨Region.copy_real fair.placed, Region.copy_real fair.others⟩
  | announcing holds =>
    simp only [RuntimeThread.step, now, next, here, there]
    refine .advance (.some (.running ?_ (holds.calm (calm _) (otherCalm _) ?_ ?_)))
      ⟨twin.routine, twin.others, twin.word, rfl, twin.result⟩
    · have routine := twin.routine
      have others := twin.others
      rw [ControlBlock.routine] at routine others
      rw [routine, others]
      exact uniform
    · rw [updateBlock_same]
    · rw [updateBlock_same]
  | running goes holds =>
    -- Both functions are done, or neither is.
    rcases goes.kinds with ⟨result, further, rfl, rfl, word⟩ | ⟨more, mores⟩
    · simp only [RuntimeThread.step, now, next]
      exact .some ⟨.some (.returning word), twin⟩
    · rw [step_running now more, step_running next mores]
      exact .goesOn fair goes holds slot otherSlot clear twin
  | returning same =>
    simp only [RuntimeThread.step, now, next, here, there]
    exact .advance (.some .stopping) ⟨twin.routine, twin.others, twin.word, twin.state, same⟩
  | stopping =>
    simp only [RuntimeThread.step, now, next, here, there]
    exact .advance (.some .exiting) ⟨twin.routine, twin.others, twin.word, rfl, twin.result⟩
  | exiting =>
    simp only [RuntimeThread.step, now, next, here, there]
    exact .advance .none ⟨twin.routine, twin.others, rfl, twin.state, twin.result⟩

end

end ArenaThreads
