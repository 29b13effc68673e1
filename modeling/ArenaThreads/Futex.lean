import ArenaThreads.OsError
import ArenaThreads.Time
/-! Sleeping on a word while it holds an expected value, and waking the sleepers. -/

namespace ArenaThreads.Futex

inductive Ending
  | woken
  | expired
  | interrupted
  deriving DecidableEq, Repr

/-- Nobody falls asleep on a word that no longer holds the expected value. -/
def wait (value expected : Nat) (ending : Ending) : Except OsError Unit :=
  if value ≠ expected then .error .wouldBlock
  else match ending with
    | .woken => .ok ()
    | .expired => .error .timedOut
    | .interrupted => .error .interrupted

def wakeCount (count : Option Nat) : Nat :=
  match count with
  | none => 0x7fff_ffff
  | some count => min count 0x7fff_ffff

/-- How many of the sleepers wake; the kernel wakes one before it looks at the count. -/
def woken (count : Option Nat) (sleepers : Nat) : Nat := min sleepers (max 1 (wakeCount count))

end ArenaThreads.Futex
