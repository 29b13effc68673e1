import ArenaThreads.Cells
/-! What a process shares among its threads besides their memory: words, gates and notes. -/

namespace ArenaThreads

inductive Note
  | block (block : Option Nat)
  | context (context : Nat)
  | flag (flag : Bool)
  deriving DecidableEq, Repr

structure Shared where
  words : Cells Nat UInt32 := fun _ => 0
  openGates : Cells Nat Bool := fun _ => false
  notes : Cells Nat (List Note) := fun _ => []

namespace Shared

def addWord (word : Nat) (amount : UInt32) (shared : Shared) : Shared :=
  { shared with words := shared.words.set word (shared.words word + amount) }

def openGate (gate : Nat) (shared : Shared) : Shared :=
  { shared with openGates := shared.openGates.set gate true }

def note (key : Nat) (note : Note) (shared : Shared) : Shared :=
  { shared with notes := shared.notes.set key (shared.notes key ++ [note]) }

end Shared

end ArenaThreads
