import ArenaThreads.Proofs.Allocator.Service
/-!
Steps of a client that are served keep its ledger in order and disturb no block but their own.
-/

namespace ArenaThreads

open Arena (Block)

namespace Client

/-- What holds of a client at all times: its ledger is in order, and its blocks are in the ledger,
each under one name. -/
structure Sound (client : Client) : Prop where
  spread : Block.Spread client.live
  listed : ∀ {name block}, client.blocks name = some block → block ∈ client.live
  alone : ∀ {name other block}, name ≠ other → client.blocks name = some block →
    client.blocks other ≠ some block

def Serves (allocator : Allocator) (heap : Machine → HeapAnswers) (step : ClientStep)
    (client : Client) : Prop :=
  ∀ size ∈ client.asked? step,
    Block.Served (client.blocks step.name) size (client.ask allocator heap step.name size).1
      client.live (client.ledger allocator heap step.name size) client.machine.memory
      (client.ask allocator heap step.name size).2.memory

end Client

variable {allocator : Allocator} {heap : Machine → HeapAnswers} {client : Client} {step : ClientStep}
  {block other : Block} {size : Nat}

section

variable {live after : List Block} {had : Option Block} {result : Option Nat} {before bytes : Memory}

namespace Arena.Block.Served

theorem keeps (served : Served had size result live after before bytes) (listed : block ∈ live)
    (different : had ≠ some block) : block ∈ after := by
  have kept := mem_without_of_ne had listed different
  apply served.ledger.mem_iff.mpr
  simp only [afterRequest, afterResize]
  split
  · exact kept
  · split
    · exact listed
    · exact List.mem_cons_of_mem _ kept

theorem renewed_listed (served : Served had size result live after before bytes)
    (listed : ∀ block ∈ had, block ∈ live) (mine : renewed size result had = some block) :
    block ∈ after := by
  by_cases zero : size = 0
  · subst zero
    cases mine
  · apply served.ledger.mem_iff.mpr
    simp only [afterRequest, afterResize, if_neg zero]
    cases result with
    | none =>
      rw [renewed_refused had zero] at mine
      exact listed block mine
    | some fresh =>
      rw [renewed_given had zero] at mine
      cases mine
      exact List.mem_cons_self

theorem renewed_differs (served : Served had size result live after before bytes)
    (listed : other ∈ live) (different : had ≠ some other) :
    renewed size result had ≠ some other := by
  intro same
  by_cases zero : size = 0
  · subst zero
    cases same
  · cases result with
    | none =>
      rw [renewed_refused had zero] at same
      exact different same
    | some fresh =>
      rw [renewed_given had zero] at same
      have kept := mem_without_of_ne had listed different
      have ledger := served.ledger
      simp only [afterRequest, afterResize, if_neg zero] at ledger
      have apart := (List.pairwise_cons.mp (served.spread.perm ledger).apart).1 other kept
      cases same
      simp only [Apart] at apart
      omega

end Arena.Block.Served

end

namespace Client

/-! Steps that ask for memory -/

theorem request_sound (sound : client.Sound) {name : Nat}
    (served : Block.Served (client.blocks name) size (client.ask allocator heap name size).1
      client.live (client.ledger allocator heap name size) client.machine.memory
      (client.ask allocator heap name size).2.memory) :
    (client.request allocator heap name size).Sound := by
  have own : ∀ block ∈ client.blocks name, block ∈ client.live := fun block mine => sound.listed mine
  have renewed : (client.request allocator heap name size).blocks name =
      Block.renewed size (client.ask allocator heap name size).1 (client.blocks name) :=
    Cells.set_same ..
  have rest {other : Nat} (different : other ≠ name) :
      (client.request allocator heap name size).blocks other = client.blocks other :=
    Cells.set_other _ _ different
  constructor
  · exact served.spread
  · intro other block theirs
    by_cases here : other = name
    · subst here
      exact served.renewed_listed own (renewed.symm.trans theirs)
    · rw [rest here] at theirs
      exact served.keeps (sound.listed theirs) (sound.alone here theirs)
  · intro first second block different mine theirs
    by_cases here : first = name
    · subst here
      rw [rest different.symm] at theirs
      exact served.renewed_differs (sound.listed theirs) (sound.alone different.symm theirs)
        (renewed.symm.trans mine)
    · rw [rest here] at mine
      by_cases there : second = name
      · subst there
        exact served.renewed_differs (sound.listed mine) (sound.alone here mine) (renewed.symm.trans theirs)
      · rw [rest there] at theirs
        exact sound.alone different mine theirs

/-! Steps that touch a byte -/

theorem touch_rest (client : Client) (step : ClientStep) :
    (client.touch step).blocks = client.blocks ∧ (client.touch step).live = client.live ∧
      (client.touch step).machine.arenas = client.machine.arenas := by
  cases step with
  | write name offset byte =>
    simp only [touch]
    split
    · exact ⟨rfl, rfl, rfl⟩
    · split <;> exact ⟨rfl, rfl, rfl⟩
  | read name offset =>
    simp only [touch]
    split
    · exact ⟨rfl, rfl, rfl⟩
    · split <;> exact ⟨rfl, rfl, rfl⟩
  | _ => exact ⟨rfl, rfl, rfl⟩

theorem touch_sound (sound : client.Sound) (step : ClientStep) : (client.touch step).Sound := by
  obtain ⟨blocks, live, -⟩ := touch_rest client step
  constructor
  · rw [live]
    exact sound.spread
  · intro name block mine
    rw [blocks] at mine
    rw [live]
    exact sound.listed mine
  · intro name other block different mine
    rw [blocks] at mine ⊢
    exact sound.alone different mine

theorem touch_bytes (sound : client.Sound) (step : ClientStep) (listed : block ∈ client.live)
    (different : client.blocks step.name ≠ some block) :
    block.SameBytes client.machine.memory (client.touch step).machine.memory := by
  intro i inside
  cases step with
  | write name offset byte =>
    simp only [touch]
    split
    · rfl
    · rename_i mine had
      split
      · rename_i within
        have apart := sound.spread.apart_of_ne (sound.listed had) listed
          fun same => different (had.trans (congrArg some same))
        simp only [Block.Apart] at apart
        apply Memory.write_outside
        omega
      · rfl
  | read name offset =>
    simp only [touch]
    split
    · rfl
    · split <;> rfl
  | _ => rfl

/-! All steps -/

theorem step_request {asked : Nat} (asks : client.asked? step = some asked) :
    client.step allocator heap step = client.request allocator heap step.name asked := by
  rw [Client.step, asks]

theorem step_touch (quiet : client.asked? step = none) :
    client.step allocator heap step = client.touch step := by
  rw [Client.step, quiet]

theorem step_sound (sound : client.Sound) (serves : Serves allocator heap step client) :
    (client.step allocator heap step).Sound := by
  cases asks : client.asked? step with
  | none =>
    rw [step_touch asks]
    exact touch_sound sound step
  | some size =>
    rw [step_request asks]
    exact request_sound sound (serves size asks)

/-- A step that is served leaves everything alone but its own block. -/
theorem contained (sound : client.Sound) (serves : Serves allocator heap step client) :
    Contained allocator heap step client := by
  have strangers : ∀ block ∈ client.live, client.blocks step.name ≠ some block →
      block ∈ (client.step allocator heap step).live ∧
        block.SameBytes client.machine.memory (client.step allocator heap step).machine.memory := by
    intro block listed different
    cases asks : client.asked? step with
    | none =>
      rw [step_touch asks, (touch_rest client step).2.1]
      exact ⟨listed, touch_bytes sound step listed different⟩
    | some size =>
      have served := serves size asks
      rw [step_request asks]
      exact ⟨served.keeps listed different, served.others block listed different⟩
  have answered {size : Nat} (asks : client.asked? step = some size) :
      (client.step allocator heap step).blocks step.name =
        Block.renewed size (client.ask allocator heap step.name size).1
          (client.blocks step.name) := by
    rw [step_request asks]
    exact Cells.set_same ..
  constructor
  · intro name different
    cases asks : client.asked? step with
    | none => rw [step_touch asks, (touch_rest client step).1]
    | some size =>
      rw [step_request asks]
      exact Cells.set_other _ _ different
  · intro name block different mine
    exact (strangers block (sound.listed mine) (sound.alone different mine)).2
  · exact strangers
  · intro size asks address given
    have real : size ≠ 0 := by
      intro zero
      cases ((serves size asks).zero zero).symm.trans given
    rw [answered asks, Option.mem_def.mp given, Block.renewed_given _ real]
  · intro size asks block mine fresh theirs i inside
    rw [answered asks] at theirs
    rw [step_request asks]
    exact (serves size asks).moved block mine fresh theirs i inside
  · intro asks
    refine ⟨(serves 0 asks).zero rfl, ?_⟩
    rw [answered asks, Block.renewed_zero]

end Client

end ArenaThreads
