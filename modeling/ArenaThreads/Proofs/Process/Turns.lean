import ArenaThreads.Proofs.Process.ContextSteps
import ArenaThreads.Proofs.Process.Footprint
import ArenaThreads.Proofs.Process.LiveMemory
import ArenaThreads.Proofs.Process.RegistryHistory
/-!
Calls about contexts among the moves of a process. Threads that the process has not launched call
from stacks of their own; threads that it has launched call as a step of their functions. What each
has made current last is kept where only its own calls reach.
-/

namespace ArenaThreads

/-- A thread that the process has not launched. The address of its default context names its
thread-local memory. -/
structure HostThread where
  stack : Mapping
  home : Nat
  deriving DecidableEq, Repr

inductive ContextCall
  | current
  | setCurrent (context : Nat)
  | allocator
  deriving DecidableEq, Repr

inductive Turn
  | move (move : Move)
  | host (thread : HostThread) (address : Nat) (call : ContextCall)

inductive Party
  | host (thread : HostThread)
  | runtime (block : Nat)
  deriving DecidableEq, Repr

def HostThread.Calls (caller : Caller) (thread : HostThread) : Prop :=
  caller.home = thread.home ∧ thread.stack.base ≤ caller.stack ∧
    caller.stack < thread.stack.base + thread.stack.length

def ContextCall.perform (caller : Caller) (machine : Machine) : ContextCall → Machine
  | .current | .allocator => machine
  | .setCurrent context => (machine.setCurrent caller context).2

def System.turn (turn : Turn) (system : System) : System :=
  match turn with
  | .move move => (system.step move).1
  | .host thread address call =>
    { system with machine := call.perform ⟨address, thread.home⟩ system.machine }

def System.play (turns : List Turn) (system : System) : System :=
  turns.foldl (fun system turn => system.turn turn) system

/-! What each party has made current -/

/-- What a thread has made current last, after a step at this stage. A thread begins with nothing. -/
def Stage.latest (seen : Option Nat) : Stage → Option Nat
  | .entering => none
  | .running (.setCurrent context _) => some context
  | _ => seen

namespace Turn

def party? : Turn → Option Party
  | .move (.thread block _) => some (.runtime block)
  | .host thread _ _ => some (.host thread)
  | _ => none

def made (system : System) (seen : Option Nat) : Turn → Option Nat
  | .move (.thread block _) =>
    ((system.threadAt? block).map fun thread => thread.stage.latest seen).getD seen
  | .host _ _ (.setCurrent context) => some context
  | _ => seen

def latest (party : Party) (system : System) (seen : Option Nat) (turn : Turn) : Option Nat :=
  if turn.party? = some party then turn.made system seen else seen

end Turn

def Party.latest (party : Party) : List Turn → System → Option Nat → Option Nat
  | [], _, seen => seen
  | turn :: rest, system, seen =>
    latest party rest (system.turn turn) (turn.latest party system seen)

/-- What is current before a party has made anything so: the default context of a host thread, the
copy in the storage of a launched one. -/
def Party.initial (machine : Machine) : Party → Nat
  | .host thread => thread.home
  | .runtime block => (machine.blocks block).context

/-! What the host sees to -/

structure HostThreads (hosts : List HostThread) : Prop where
  real : ∀ thread ∈ hosts, thread.home ≠ 0
  apart : ∀ thread ∈ hosts, ∀ other ∈ hosts, thread ≠ other → thread.home ≠ other.home

def System.Roomy (system : System) : Prop :=
  ∀ owner memory, system.held owner = some memory → memory.roomy = true

def System.Clear (hosts : List HostThread) (system : System) : Prop :=
  ∀ thread ∈ hosts, ∀ owner memory, system.held owner = some memory →
    memory.region.mapping.Apart thread.stack

def Move.Avoids (hosts : List HostThread) (move : Move) : Prop :=
  ∀ thread ∈ hosts, ∀ mapping, move.Maps mapping → mapping.Apart thread.stack

def Move.SetsReal (system : System) : Move → Prop
  | .thread block _ => ∀ thread context next, system.threadAt? block = some thread →
      thread.stage = .running (.setCurrent context next) → context ≠ 0
  | _ => True

def Turn.Lawful (hosts : List HostThread) (system : System) : Turn → Prop
  | .move step => step.Lawful system ∧ step.Avoids hosts ∧ step.SetsReal system
  | .host thread address call => thread ∈ hosts ∧ thread.Calls ⟨address, thread.home⟩ ∧
      ∀ context, call = .setCurrent context → context ≠ 0

def System.LawfulTurns (hosts : List HostThread) : List Turn → System → Prop
  | [], _ => True
  | turn :: rest, system =>
    turn.Lawful hosts system ∧ LawfulTurns hosts rest (system.turn turn)

/-! Where callers find their context -/

section

variable {system next : System} {hosts : List HostThread} {host : HostThread} {caller : Caller}
  {block : Nat} {thread : RuntimeThread} {turn : Turn} {party : Party} {seen : Option Nat}
  {latest : Party → Option Nat}

theorem Ownership.misses {held : Holdings} {machine : Machine} (sound : Ownership held machine)
    (clear : ∀ {owner memory}, held owner = some memory → memory.region.mapping.Apart host.stack)
    (calls : host.Calls caller) : machine.slot caller = none := by
  rw [Machine.slot, Registry.lookup_eq_none_iff sound.linked]
  intro member listed
  obtain ⟨owner, memory, mine, rfl⟩ := (sound.members member).mp listed
  have house := sound.housed mine
  have apart := clear mine
  have inside := Region.block_inside house.placed
  have full := Region.storage_inside house.placed
  rw [← Bool.not_eq_true, house.holds]
  intro within
  obtain ⟨-, low, high⟩ := calls
  simp only [Mapping.Apart, Region.mapping, Region.stackLow, ThreadMemory.block,
    ControlBlock.size] at *
  omega

theorem host_slot (sound : Sound system) (clear : system.Clear hosts) (known : host ∈ hosts)
    (calls : host.Calls caller) : system.machine.slot caller = none :=
  sound.ownership.misses (fun mine => clear host known _ _ mine) calls

theorem runtime_slot (sound : Sound system) (found : system.threadAt? block = some thread)
    (low : thread.region.stackLow ≤ caller.stack) (high : caller.stack < block) :
    system.machine.slot caller = some block := by
  obtain ⟨owner, memory, mine, rfl⟩ := sound.owned found
  have crewed := sound.crewed mine
  rw [found] at crewed
  cases crewed with
  | present region stack word shows =>
    rw [region] at low
    exact sound.ownership.finds mine low high

theorem runtime_describes (sound : Sound system) (found : system.threadAt? block = some thread) :
    (system.machine.blocks block).Describes thread.region ∧ thread.region.Placed := by
  obtain ⟨owner, memory, mine, rfl⟩ := sound.owned found
  have crewed := sound.crewed mine
  have house := sound.ownership.housed mine
  rw [found] at crewed
  cases crewed with
  | present region stack word shows =>
    rw [region]
    exact ⟨house.described, house.placed⟩

theorem runtime_context_real (sound : Sound system)
    (found : system.threadAt? block = some thread) : (system.machine.blocks block).context ≠ 0 := by
  obtain ⟨describes, placed⟩ := runtime_describes sound found
  have inside := Region.block_inside placed
  have context := describes.context
  omega

/-! What turns leave alone -/

theorem System.Clear.step {move : Move} (clear : system.Clear hosts) (avoids : move.Avoids hosts) :
    (system.step move).1.Clear hosts := by
  intro host known owner memory mine
  rcases step_had mine with ⟨other, had, theirs, same⟩ | ⟨mapped, -⟩
  · rw [← same]
    exact clear host known other had theirs
  · exact avoids host known memory.region.mapping mapped

theorem System.Roomy.step {move : Move} (roomy : system.Roomy) : (system.step move).1.Roomy := by
  intro owner memory mine
  rcases step_had mine with ⟨other, had, theirs, same⟩ | ⟨-, room, -⟩
  · rw [← roomy_region same]
    exact roomy other had theirs
  · exact room

theorem Turn.latest_other (other : turn.party? ≠ some party) :
    turn.latest party system seen = seen := by
  rw [Turn.latest, if_neg other]

theorem System.threadAt?_congr (same : next.threads = system.threads) :
    next.threadAt? block = system.threadAt? block := by
  rw [System.threadAt?, System.threadAt?, same]

theorem Effect.threadAt {move : Move} (effect : Effect system move next) (sound : Sound system)
    (other : ∀ answers, move ≠ .thread block answers) :
    next.threadAt? block = system.threadAt? block ∨
      system.threadAt? block = none ∧
        ∃ thread, next.threadAt? block = some thread ∧ thread.stage = .entering := by
  cases effect with
  | @launched name id home memory after has created real steady contents quiet seen alone =>
    by_cases here : block = memory.block
    · have absent : (system.idle name).threadAt? memory.block = none := sound.absent has created.word
      rw [here]
      apply Or.inr
      refine ⟨sound.absent has created.word, .launched memory.region home, ?_, rfl⟩
      exact System.threadAt?_launched memory home absent
    · exact Or.inl (System.threadAt?_launched_other memory home here)
  | @stepped owner memory mover stage after answers mine found steady advance asked =>
    apply Or.inl
    apply System.threadAt?_withStage_other
    intro here
    rw [here] at other
    exact other answers asked
  | _ =>
    apply Or.inl
    apply System.threadAt?_congr
    rfl

theorem Effect.contexts {move : Move} (effect : Effect system move next) (sound : Sound system)
    (found : system.threadAt? block = some thread) (other : ∀ answers, move ≠ .thread block answers) :
    (next.machine.blocks block).current = (system.machine.blocks block).current ∧
      (next.machine.blocks block).context = (system.machine.blocks block).context := by
  obtain ⟨owner, memory, mine, rfl⟩ := sound.owned found
  have spared := effect.spared sound ⟨owner, thread, mine, found⟩ other
  have current := congrArg ControlBlock.current spared.block
  have context := congrArg ControlBlock.context spared.block
  exact ⟨current, context⟩

/-! One turn -/

/-- What each party has made current last is current on it. -/
structure Separate (hosts : List HostThread) (latest : Party → Option Nat) (system : System) :
    Prop where
  sound : Sound system
  roomy : system.Roomy
  clear : system.Clear hosts
  host : ∀ host ∈ hosts, system.machine.threadLocal host.home = (latest (.host host)).getD 0
  runtime : ∀ {block thread}, system.threadAt? block = some thread → thread.stage ≠ .entering →
    (system.machine.blocks block).current =
      (latest (.runtime block)).getD (system.machine.blocks block).context
  real : ∀ {party context}, latest party = some context → context ≠ 0

theorem Separate.current_real (separate : Separate hosts latest system)
    (found : system.threadAt? block = some thread) (entered : thread.stage ≠ .entering) :
    (system.machine.blocks block).current ≠ 0 := by
  rw [separate.runtime found entered]
  cases made : latest (.runtime block) with
  | none => exact runtime_context_real separate.sound found
  | some context => exact separate.real made

theorem Separate.congr (separate : Separate hosts latest system) {others : Party → Option Nat}
    (same : ∀ party, others party = latest party) : Separate hosts others system := by
  rwa [funext same]

theorem Separate.hostTurn (separate : Separate hosts latest system) (homes : HostThreads hosts)
    {address : Nat} {call : ContextCall}
    (lawful : (Turn.host host address call).Lawful hosts system) :
    Separate hosts
      (fun party => (Turn.host host address call).latest party system (latest party))
      (system.turn (.host host address call)) := by
  obtain ⟨known, calls, real⟩ := lawful
  cases call with
  | setCurrent context =>
    have slot := host_slot separate.sound separate.clear known calls
    have changed : system.turn (.host host address (.setCurrent context)) =
        { system with
          machine := system.machine.setThreadLocal ⟨address, host.home⟩ context } := by
      rw [System.turn, ContextCall.perform, setCurrent_home context slot]
    have own : (Turn.host host address (.setCurrent context)).latest (.host host) system
        (latest (.host host)) = some context := if_pos rfl
    have elsewhere {party : Party} (different : party ≠ .host host) :
        (Turn.host host address (.setCurrent context)).latest party system (latest party) =
          latest party := Turn.latest_other fun same => different (Option.some.inj same).symm
    rw [changed]
    constructor
    · exact separate.sound.keep (separate.sound.ownership.keeps rfl rfl rfl rfl rfl rfl)
    · exact separate.roomy
    · exact separate.clear
    · intro other there
      by_cases here : other = host
      · subst here
        rw [own]
        exact Cells.set_same ..
      · rw [elsewhere (by simpa using here)]
        apply (Cells.set_other _ _ (homes.apart other there host known here)).trans
        exact separate.host other there
    · intro block thread found entered
      rw [elsewhere (by simp)]
      exact separate.runtime found entered
    · intro party value made
      by_cases here : party = .host host
      · subst here
        rw [own] at made
        cases made
        exact real context rfl
      · rw [elsewhere here] at made
        exact separate.real made
  | _ =>
    apply separate.congr
    intro party
    exact ite_self _

/-- No call on a handle, and nothing that the kernel does, touches what anybody has made current. -/
theorem Separate.calls (separate : Separate hosts latest system) {move : Move}
    (lawful : move.Lawful system) (avoids : move.Avoids hosts)
    (control : ∀ block answers, move ≠ .thread block answers) :
    Separate hosts latest (system.step move).1 := by
  have effect := step_effect separate.sound lawful
  constructor
  · exact effect.sound separate.sound
  · exact separate.roomy.step
  · exact separate.clear.step avoids
  · intro host known
    rw [(step_confined control).threadLocal]
    exact separate.host host known
  · intro block thread found entered
    rcases effect.threadAt separate.sound (control block) with same | ⟨-, fresh, there, entering⟩
    · rw [same] at found
      obtain ⟨current, context⟩ := effect.contexts separate.sound found (control block)
      rw [current, context]
      exact separate.runtime found entered
    · cases found.symm.trans there
      exact absurd entering entered
  · exact separate.real

theorem stuck_latest {answers : HeapAnswers} {machine : Machine}
    (stuck : thread.step answers machine = none) : thread.stage.latest seen = seen := by
  rcases thread with ⟨region, caller, stage⟩
  cases stage with
  | entering => cases stuck
  | running rest =>
    cases rest with
    | setCurrent context next => cases stuck
    | _ => rfl
  | _ => rfl

theorem Stage.leaves_latest {contents : ControlBlock} {stage : Stage}
    (was : stage ≠ .entering → contents.current = seen.getD contents.context) :
    stage.leaves contents = (stage.latest seen).getD contents.context := by
  cases stage with
  | entering => rfl
  | running rest =>
    cases rest with
    | setCurrent context next => rfl
    | _ => exact was nofun
  | _ => exact was nofun

theorem Stage.latest_real {stage : Stage} {context : Nat}
    (sets : ∀ context next, stage = .running (.setCurrent context next) → context ≠ 0)
    (before : ∀ context, seen = some context → context ≠ 0)
    (made : stage.latest seen = some context) : context ≠ 0 := by
  cases stage with
  | entering => cases made
  | running rest =>
    cases rest with
    | setCurrent context next =>
      cases made
      exact sets context next rfl
    | _ => exact before context made
  | _ => exact before context made

theorem runtime_stack (sound : Sound system) (found : system.threadAt? block = some thread) :
    thread.region.stackLow ≤ thread.caller.stack ∧ thread.caller.stack < block := by
  obtain ⟨owner, memory, mine, rfl⟩ := sound.owned found
  have crewed := sound.crewed mine
  have inside := (Region.block_inside (sound.ownership.housed mine).placed).1
  rw [found] at crewed
  cases crewed with
  | present region stack word shows =>
    rw [region, stack]
    simp only [ThreadMemory.block]
    omega

theorem Separate.advance (separate : Separate hosts latest system) {answers : HeapAnswers}
    {stage : Option Stage} {after : Machine} (found : system.threadAt? block = some thread)
    (stepped : thread.step answers system.machine = some (stage, after)) :
    Leaves block ((thread.stage.latest (latest (.runtime block))).getD
        (system.machine.blocks block).context) system.machine after ∧
      Steady block system.machine after := by
  have place : thread.block = block := System.threadAt?_block found
  obtain ⟨low, high⟩ := runtime_stack separate.sound found
  have slot := runtime_slot separate.sound found low high
  have real (entered : thread.stage ≠ .entering) : (system.machine.blocks block).current ≠ 0 :=
    separate.current_real found entered
  subst place
  have leaves := step_leaves stepped slot real
  rw [Stage.leaves_latest (separate.runtime found)] at leaves
  exact ⟨leaves, (step_advance stepped slot).1⟩

theorem Separate.steps (separate : Separate hosts latest system) {answers : HeapAnswers}
    (sets : (Move.thread block answers).SetsReal system) :
    Separate hosts
      (fun party => (Turn.move (.thread block answers)).latest party system (latest party))
      (system.turn (.move (.thread block answers))) := by
  have elsewhere {party : Party} (different : party ≠ .runtime block) :
      (Turn.move (.thread block answers)).latest party system (latest party) = latest party :=
    Turn.latest_other fun same => different (Option.some.inj same).symm
  have own : (Turn.move (.thread block answers)).latest (.runtime block) system
      (latest (.runtime block)) = ((system.threadAt? block).map fun thread =>
        thread.stage.latest (latest (.runtime block))).getD (latest (.runtime block)) := if_pos rfl
  have sound : Sound (system.threadStep block answers) :=
    @step_sound system (.thread block answers) separate.sound trivial
  have roomy : (system.threadStep block answers).Roomy :=
    @System.Roomy.step system (.thread block answers) separate.roomy
  have clear : (system.threadStep block answers).Clear hosts :=
    @System.Clear.step system hosts (.thread block answers) separate.clear nofun
  change Separate hosts _ (system.threadStep block answers)
  rcases System.threadStep_cases block answers system with
    ⟨same, stuck⟩ | ⟨thread, stage, after, found, stepped, same⟩
  · rw [same]
    apply separate.congr
    intro party
    by_cases here : party = .runtime block
    · rw [here, own]
      cases found : system.threadAt? block with
      | none => rfl
      | some thread => exact stuck_latest (stuck thread found)
    · exact elsewhere here
  · rw [same] at sound roomy clear ⊢
    rw [found] at own
    obtain ⟨leaves, steady⟩ := separate.advance found stepped
    -- Its own thread has made current what the step leaves. All others keep what was theirs.
    constructor
    · exact sound
    · exact roomy
    · exact clear
    · intro host known
      rw [System.machine_withStage, leaves.threadLocal, elsewhere (by simp)]
      exact separate.host host known
    · intro other further there entered
      by_cases here : other = block
      · rw [here, System.machine_withStage, leaves.current, leaves.context, own]
        rfl
      · rw [System.threadAt?_withStage_other _ here] at there
        rw [System.machine_withStage, steady.blocks other here, elsewhere (by simpa using here)]
        exact separate.runtime there entered
    · intro party context made
      by_cases here : party = .runtime block
      · rw [here, own] at made
        exact Stage.latest_real (fun context rest stage => sets thread context rest found stage)
          (fun context before => separate.real before) made
      · rw [elsewhere here] at made
        exact separate.real made

theorem Separate.takes (separate : Separate hosts latest system) (homes : HostThreads hosts)
    (lawful : turn.Lawful hosts system) :
    Separate hosts (fun party => turn.latest party system (latest party)) (system.turn turn) := by
  cases turn with
  | host host address call => exact separate.hostTurn homes lawful
  | move step =>
    cases step with
    | thread block answers => exact separate.steps lawful.2.2
    | _ =>
      apply Separate.congr (separate.calls lawful.1 lawful.2.1 nofun)
      intro party
      exact if_neg nofun

/-! Many turns -/

theorem Separate.play {turns : List Turn} (separate : Separate hosts latest system)
    (homes : HostThreads hosts) (lawful : System.LawfulTurns hosts turns system) :
    Separate hosts (fun party => party.latest turns system (latest party)) (system.play turns) := by
  induction turns generalizing system latest with
  | nil => exact separate
  | cons turn rest ih =>
    obtain ⟨now, later⟩ := lawful
    exact ih (separate.takes homes now) later

theorem Separate.fresh (fresh : system.Fresh)
    (unset : ∀ host ∈ hosts, system.machine.threadLocal host.home = 0) :
    Separate hosts (fun _ => none) system := by
  have nothing (owner : Owner) : system.held owner = none := by
    cases owner <;> simp [System.held, fresh.handles, fresh.abandoned, Handle.empty]
  constructor
  · exact .fresh fresh
  · intro owner memory mine
    cases (nothing owner).symm.trans mine
  · intro host known owner memory mine
    cases (nothing owner).symm.trans mine
  · exact unset
  · intro block thread found
    simp [System.threadAt?, fresh.threads] at found
  · intro party context made
    cases made

end

end ArenaThreads
