import ArenaThreads.Proofs.Allocator.Service
import ArenaThreads.Proofs.Arena.Refusal
/-!
What it means that a block is asked to have another size and there is none. For no bytes the block
has been given back, and for any other size it is as it was and can still be given back once.
-/

namespace ArenaThreads

open Arena (Block Ledger)

namespace Allocator

def ask (allocator : Allocator) (answers : HeapAnswers) (had : Option Block) (size : Nat)
    (machine : Machine) : Option Nat × Machine :=
  machine.resize allocator (had.map Block.address) ((had.map Block.size).getD 0) size answers

def serve (allocator : Allocator) (answers : HeapAnswers) (had : Option Block) (size : Nat)
    (ledger : Ledger) : Ledger where
  machine := (allocator.ask answers had size ledger.machine).2
  live := match allocator.kind with
    | .heap => (Heap.requestFor had size).book answers ledger.live
    | .arena =>
      Block.afterRequest had size (allocator.ask answers had size ledger.machine).1 ledger.live

/-- What there can be behind an allocator: a heap that has been asked about blocks it has handed
out, with the sizes they have, and has answered lawfully; or an arena in use, by itself or through
views. -/
inductive Reached : Allocator → Ledger → Prop
  | heap {machine : Machine} : Reached .heap { machine }
  | asked {ledger : Ledger} {answers : HeapAnswers} {had : Option Block} {size : Nat}
    (before : Reached .heap ledger) (listed : ∀ block ∈ had, block ∈ ledger.live)
    (lawful : (Heap.requestFor had size).Lawful answers ledger.live) :
    Reached .heap (serve .heap answers had size ledger)
  | written {ledger : Ledger} (memory : Memory) (before : Reached .heap ledger) :
    Reached .heap { ledger with machine := { ledger.machine with memory } }
  | arena {place : Nat} {ledger : Ledger} (real : place ≠ 0)
    (reached : Ledger.Reached place ledger) : Reached (.arena place) ledger

structure GivenBack (allocator : Allocator) (block : Block) (before after : Ledger) : Prop where
  reached : allocator.Reached after
  listed : block ∈ before.live
  live : after.live = before.live.erase block
  gone : block ∉ after.live
  memory : after.machine.memory = before.machine.memory
  heap : allocator.kind = .heap →
    (Heap.Request.deallocate block.address block.size).Exact before.live ∧
      after.machine.arenas = before.machine.arenas ∧
      after.machine.calls =
        before.machine.calls ++ [.heap (.deallocate block.address block.size)]
  arena : allocator.kind = .arena →
    after.machine.arenas = before.machine.arenas.set allocator.data
        ((before.machine.arenas allocator.data).free (some block.address) block.size) ∧
      after.machine.calls = before.machine.calls

structure Untouched (allocator : Allocator) (before after : Ledger) : Prop where
  reached : allocator.Reached after
  live : after.live = before.live
  memory : after.machine.memory = before.machine.memory
  arenas : after.machine.arenas = before.machine.arenas
  calls : ∃ issued, after.machine.calls = before.machine.calls ++ issued ∧
    ∀ address size, .heap (.deallocate address size) ∉ issued

/-- What it means that a block gets no other size: it has been given back if no bytes were asked
for, and otherwise it is untouched and can be given back once. -/
structure NoneTells (allocator : Allocator) (answers : HeapAnswers) (block : Block) (size : Nat)
    (ledger : Ledger) : Prop where
  zero : size = 0 → (allocator.ask answers (some block) size ledger.machine).1 = none ∧
    allocator.GivenBack block ledger (allocator.serve answers (some block) size ledger)
  untouched : size ≠ 0 → (allocator.ask answers (some block) size ledger.machine).1 = none →
    allocator.Untouched ledger (allocator.serve answers (some block) size ledger)
  once : size ≠ 0 → (allocator.ask answers (some block) size ledger.machine).1 = none →
    ∀ later : HeapAnswers,
      allocator.GivenBack block (allocator.serve answers (some block) size ledger)
        (allocator.serve later (some block) 0
          (allocator.serve answers (some block) size ledger))

variable {allocator : Allocator} {answers : HeapAnswers} {ledger : Ledger} {block : Block}
  {size place : Nat} {had : Option Block}

/-! Blocks are apart, and those of the heap have sizes that blocks can have. -/

theorem Reached.sound (reached : allocator.Reached ledger) :
    Block.Spread ledger.live ∧
      (allocator.kind = .heap → ∀ block ∈ ledger.live, Heap.isSize block.size = true) := by
  induction reached with
  | heap => exact ⟨⟨by simp, List.Pairwise.nil⟩, by simp⟩
  | @asked ledger answers had size before listed lawful ih =>
    obtain ⟨spread, sized⟩ := ih
    have asks := Heap.request_asks (fun block mine => sized rfl block (listed block mine)) size
    have served := @Heap.Asks.served _ _ _ ledger.machine _ _ asks spread listed lawful
    exact ⟨served.spread, fun _ => asks.sized (sized rfl)⟩
  | written memory before ih => exact ih
  | arena real reached =>
    have kept := reached.kept real
    refine ⟨⟨fun block member => (kept.placed block member).some, kept.apart⟩, ?_⟩
    intro heap
    cases heap

theorem Reached.gone (reached : allocator.Reached ledger) (listed : block ∈ ledger.live) :
    block ∉ ledger.live.erase block := by
  intro still
  have spread := reached.sound.1
  exact Block.elsewhere spread.some spread.apart listed still rfl

/-! The heap -/

theorem Reached.heap_asks (reached : Reached .heap ledger) (listed : block ∈ ledger.live)
    (size : Nat) : Heap.Asks (some block) size (Heap.requestFor (some block) size) := by
  apply Heap.request_asks
  rintro other ⟨⟩
  exact reached.sound.2 rfl block listed

theorem ask_heap (answers : HeapAnswers) (had : Option Block) (size : Nat) (machine : Machine) :
    ask .heap answers had size machine =
      machine.heapRequest (Heap.requestFor had size) answers := rfl

theorem serve_heap (answers : HeapAnswers) (had : Option Block) (size : Nat) (ledger : Ledger) :
    serve .heap answers had size ledger =
      ⟨(ledger.machine.heapRequest (Heap.requestFor had size) answers).2,
        (Heap.requestFor had size).book answers ledger.live⟩ := rfl

theorem heap_givenBack (reached : Reached .heap ledger) (listed : block ∈ ledger.live)
    (answers : HeapAnswers) :
    (ask .heap answers (some block) 0 ledger.machine).1 = none ∧
      GivenBack .heap block ledger (serve .heap answers (some block) 0 ledger) := by
  obtain ⟨spread, sized⟩ := reached.sound
  have mine : ∀ other ∈ some block, other ∈ ledger.live := by simpa using listed
  have asked : Heap.requestFor (some block) 0 = .deallocate block.address block.size := by
    simp [Heap.requestFor, Heap.request, sized rfl block listed]
  have exact := (reached.heap_asks listed 0).exact spread mine
  have further : Reached .heap (serve .heap answers (some block) 0 ledger) := by
    refine .asked reached mine ?_
    rw [asked]
    trivial
  rw [ask_heap]
  rw [serve_heap] at further ⊢
  rw [asked] at exact further ⊢
  refine ⟨rfl, ?_⟩
  constructor
  case reached => exact further
  case listed => exact listed
  case gone => exact reached.gone listed
  case heap => exact fun _ => ⟨exact, rfl, rfl⟩
  case arena =>
    intro arena
    cases arena
  all_goals rfl

theorem heap_untouched (reached : Reached .heap ledger) (listed : block ∈ ledger.live)
    (real : size ≠ 0) (refused : (ask .heap answers (some block) size ledger.machine).1 = none) :
    Untouched .heap ledger (serve .heap answers (some block) size ledger) := by
  have mine : ∀ other ∈ some block, other ∈ ledger.live := by simpa using listed
  have asks := reached.heap_asks listed size
  have further := @Reached.asked ledger answers (some block) size reached mine
  rw [ask_heap] at refused
  rw [serve_heap] at further ⊢
  generalize Heap.requestFor (some block) size = request at asks refused further ⊢
  cases asks with
  | refused =>
    exact ⟨further trivial, rfl, rfl, rfl, [], by simp [Machine.heapRequest], by simp⟩
  | deallocate => exact absurd rfl real
  | same block positive => cases refused
  | reallocate block fits =>
    -- The system's heap has been asked, and has left the block alone.
    have silent : answers size = none := by
      simp only [Machine.heapRequest] at refused
      split at refused
      case h_1 silent => exact silent
      case h_2 => cases refused
    have lawful : (Heap.Request.reallocate block.address block.size size).Lawful answers
        ledger.live := by
      intro fresh given
      rw [silent] at given
      cases given
    have asked := further lawful
    simp only [Machine.heapRequest, Heap.Request.book, silent] at asked ⊢
    exact ⟨asked, rfl, rfl, rfl, [.heap (.reallocate block.address block.size size)], rfl, by simp⟩

/-! Arenas -/

def viewed (had : Option Block) (size : Nat) : Arena.Request :=
  .view (had.map Block.address) ((had.map Block.size).getD 0) size

theorem ask_arena (answers : HeapAnswers) (had : Option Block) (size : Nat) (machine : Machine) :
    ask (.arena place) answers had size machine = (viewed had size).perform place machine := rfl

theorem serve_arena (answers : HeapAnswers) (had : Option Block) (size : Nat) (ledger : Ledger) :
    serve (.arena place) answers had size ledger = ledger.step place (viewed had size) := rfl

theorem viewed_names (listed : block ∈ ledger.live) (size : Nat) :
    (viewed (some block) size).Names ledger.live := by
  rintro address ⟨⟩
  exact listed

theorem arena_first {machine : Machine} (real : place ≠ 0) (made : (machine.arenas place).Made)
    (answers : HeapAnswers) (size : Nat) :
    Reached (.arena place) (serve (.arena place) answers none size { machine }) := by
  have nothing : (viewed none size).Names [] := by
    rintro address ⟨⟩
  exact .arena real (.asked (.made made) nothing)

theorem arena_givenBack (real : place ≠ 0) (reached : Ledger.Reached place ledger)
    (listed : block ∈ ledger.live) (answers : HeapAnswers) :
    (ask (.arena place) answers (some block) 0 ledger.machine).1 = none ∧
      GivenBack (.arena place) block ledger
        (serve (.arena place) answers (some block) 0 ledger) := by
  have further := Reached.arena real (reached.asked (viewed_names listed 0))
  have gone := (Reached.arena real reached).gone listed
  rw [ask_arena, serve_arena, Arena.Request.perform_eq real]
  rw [Ledger.step_eq real] at further ⊢
  refine ⟨rfl, ?_⟩
  constructor
  case reached => exact further
  case listed => exact listed
  case gone => exact gone
  case heap =>
    intro heap
    cases heap
  case arena => exact fun _ => ⟨rfl, rfl⟩
  all_goals rfl

theorem arena_untouched (real : place ≠ 0) (reached : Ledger.Reached place ledger)
    (listed : block ∈ ledger.live) (wanted : size ≠ 0)
    (refused : (ask (.arena place) answers (some block) size ledger.machine).1 = none) :
    Untouched (.arena place) ledger (serve (.arena place) answers (some block) size ledger) := by
  have names := viewed_names listed size
  have further := Reached.arena real (reached.asked names)
  rw [ask_arena] at refused
  have still := Arena.perform_refused real (reached.kept real) names (Or.inr wanted) refused
  have kept : (viewed (some block) size).book none ledger.live = ledger.live := by
    simp [viewed, Arena.Request.book, Block.afterResize, wanted]
  have same : ledger.step place (viewed (some block) size) = ledger := by
    simp only [Ledger.step, refused, still, kept]
  rw [serve_arena]
  rw [same] at further ⊢
  exact ⟨further, rfl, rfl, rfl, [], by simp, by simp⟩

theorem Reached.givenBack (reached : allocator.Reached ledger) (listed : block ∈ ledger.live)
    (answers : HeapAnswers) :
    (allocator.ask answers (some block) 0 ledger.machine).1 = none ∧
      allocator.GivenBack block ledger (allocator.serve answers (some block) 0 ledger) := by
  cases reached with
  | heap => cases listed
  | asked before mine lawful => exact heap_givenBack (.asked before mine lawful) listed answers
  | written memory before => exact heap_givenBack (.written memory before) listed answers
  | arena real reached => exact arena_givenBack real reached listed answers

theorem Reached.untouched (reached : allocator.Reached ledger) (listed : block ∈ ledger.live)
    (wanted : size ≠ 0)
    (refused : (allocator.ask answers (some block) size ledger.machine).1 = none) :
    allocator.Untouched ledger (allocator.serve answers (some block) size ledger) := by
  cases reached with
  | heap => cases listed
  | asked before mine lawful =>
    exact heap_untouched (.asked before mine lawful) listed wanted refused
  | written memory before => exact heap_untouched (.written memory before) listed wanted refused
  | arena real reached => exact arena_untouched real reached listed wanted refused

/-- Whatever has been asked of an allocator before, and whichever size a live block is to have. -/
theorem realloc_none_tells (reached : allocator.Reached ledger) (listed : block ∈ ledger.live)
    (answers : HeapAnswers) (size : Nat) : allocator.NoneTells answers block size ledger := by
  constructor
  · rintro rfl
    exact reached.givenBack listed answers
  · intro wanted refused
    exact reached.untouched listed wanted refused
  · intro wanted refused later
    have still := reached.untouched listed wanted refused
    have there : block ∈ (allocator.serve answers (some block) size ledger).live := by
      rw [still.live]
      exact listed
    exact (still.reached.givenBack there later).2

theorem realloc_none_tells_both :
    let answers : HeapAnswers := fun size => if size ≤ 100 then some 65536 else none
    let heap : Ledger := serve .heap answers none 24 { machine := {} }
    let machine : Machine := { arenas := fun _ => .borrowed 65536 64 }
    let view : Ledger := serve (.arena 64) answers none 24 { machine }
    let block : Block := ⟨65536, 24⟩
    (∀ size, NoneTells .heap answers block size heap) ∧
      (∀ size, NoneTells (.arena 64) answers block size view) ∧
      (ask .heap answers (some block) 101 heap.machine).1 = none ∧
      (ask (.arena 64) answers (some block) 65 view.machine).1 = none := by
  intro answers heap machine view block
  have fresh : Reached .heap heap := .asked .heap (by simp) (by decide)
  have begun : Reached (.arena 64) view :=
    arena_first (by decide) (.borrowed 65536 64 (by decide)) answers 24
  have held : block ∈ heap.live := by decide
  have lent : block ∈ view.live := by decide
  exact ⟨realloc_none_tells fresh held answers, realloc_none_tells begun lent answers, by decide,
    by decide⟩

theorem realloc_none_not_untouched :
    ¬∀ (allocator : Allocator) (answers : HeapAnswers) (ledger : Ledger) (block : Block)
      (size : Nat), allocator.Reached ledger → block ∈ ledger.live →
        (allocator.ask answers (some block) size ledger.machine).1 = none →
          allocator.Untouched ledger (allocator.serve answers (some block) size ledger) := by
  intro law
  let machine : Machine := { arenas := fun _ => .borrowed 65536 64 }
  let before : Ledger := serve (.arena 64) (fun _ => none) none 24 { machine }
  let after : Ledger := serve (.arena 64) (fun _ => none) (some ⟨65536, 24⟩) 0 before
  have begun : Reached (.arena 64) before :=
    arena_first (by decide) (.borrowed 65536 64 (by decide)) (fun _ => none) 24
  have still := law (.arena 64) (fun _ => none) before ⟨65536, 24⟩ 0 begun (by decide) rfl
  have used : (after.arena 64).used = (before.arena 64).used :=
    congrArg (fun arenas => (arenas 64).used) still.arenas
  exact absurd used (by decide)

end Allocator

end ArenaThreads
