import ArenaThreads.Futex
import ArenaThreads.Scenario.World
/-! Steps on words: reading and setting them, sleeping on them and waking the sleepers. -/

namespace ArenaThreads.Scenario.World

def wordValue (name : String) (world : World) : Nat :=
  let (index, named) := world.wordIndex name
  (named.machine.shared.words index).toNat

def setWord (name : String) (value : Nat) (world : World) : Content × World :=
  let (index, named) := world.wordIndex name
  let shared := named.machine.shared
  let changed := { shared with words := shared.words.set index (UInt32.ofNat value) }
  let after := named.withMachine { named.machine with shared := changed }
  (.value (after.wordValue name), after)

def waitContent : Except OsError Unit → Content
  | .ok () => .ok
  | .error error => .osError error

/-- A sleep on a word that a denied call, another thread or the timeout ends; one that nothing ends
in time is not begun. -/
def futexWait (name : String) (expected : Nat) (timeout : Option Duration) (wake : Bool)
    (denial : Denial) (world : World) : Content :=
  let value := world.wordValue name
  match denial.futex with
  | some code => .osError ⟨code⟩
  | none =>
    if value = expected ∧ wake = false ∧ timeout.all (fun span => 1000000000 < span.nanos) then
      .rejected
    else
      let ending := if wake ∧ timeout ≠ some ⟨0⟩ then Futex.Ending.woken else .expired
      waitContent (Futex.wait value expected ending)

def futexWaiters (sleepers : Nat) (count : Option Nat) : Content :=
  let woken := Futex.woken count sleepers
  let rest := Futex.woken none (sleepers - woken)
  .waiters woken rest (woken + rest)

end ArenaThreads.Scenario.World
