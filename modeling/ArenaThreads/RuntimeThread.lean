import ArenaThreads.Machine
/-!
A launched thread, one atomic step at a time: it makes its context current, becomes running, runs
its function, writes the result, becomes stopped, and then it is gone and the kernel clears the join
word.
-/

namespace ArenaThreads

inductive Stage
  | entering
  | announcing
  | running (rest : Routine)
  | returning (result : Nat)
  | stopping
  | exiting

structure RuntimeThread where
  region : Region
  /-- The thread shares the thread-local memory of the thread that launched it. -/
  caller : Caller
  stage : Stage

namespace Machine

def updateBlock (block : Nat) (change : ControlBlock → ControlBlock) (machine : Machine) : Machine :=
  { machine with blocks := machine.blocks.set block (change (machine.blocks block)) }

def runStep (caller : Caller) (answers : HeapAnswers) (routine : Routine) (machine : Machine) :
    Option (Routine × Machine) :=
  match routine with
  | .done _ => none
  | .current next => some (next (machine.current caller), machine)
  | .setCurrent context next =>
    let (previous, changed) := machine.setCurrent caller context
    some (next previous, changed)
  | .resize allocator block oldSize newSize next =>
    let (fresh, changed) := machine.resize allocator block oldSize newSize answers
    some (next fresh, changed)
  | .fillUp allocator size next =>
    let (count, changed) := machine.fillUp allocator size
    some (next count, changed)
  | .read start length next => some (next (machine.memory.read start length), machine)
  | .write start length bytes next =>
    some (next, { machine with memory := machine.memory.write start length bytes })
  | .share act next =>
    (act machine.shared).map fun shared => (next, { machine with shared := shared })

end Machine

namespace RuntimeThread

def block (thread : RuntimeThread) : Nat := thread.region.block

def launched (region : Region) (home : Nat) : RuntimeThread :=
  ⟨region, ⟨region.block - 1, home⟩, .entering⟩

def step (answers : HeapAnswers) (thread : RuntimeThread) (machine : Machine) :
    Option (Option Stage × Machine) :=
  let block := machine.blocks thread.block
  match thread.stage with
  | .entering =>
    some (some .announcing, machine.updateBlock thread.block fun block =>
      { block with current := block.context })
  | .announcing =>
    some (some (.running (block.function.body block.argument)),
      machine.updateBlock thread.block fun block => { block with state := .running })
  | .running (.done result) => some (some (.returning result), machine)
  | .running rest =>
    (machine.runStep thread.caller answers rest).map fun (rest, changed) =>
      (some (.running rest), changed)
  | .returning result =>
    some (some .stopping, machine.updateBlock thread.block fun block => { block with result := result })
  | .stopping =>
    some (some .exiting, machine.updateBlock thread.block fun block => { block with state := .stopped })
  | .exiting =>
    some (none, machine.updateBlock thread.block fun block => { block with joinWord := 0 })

end RuntimeThread

end ArenaThreads
