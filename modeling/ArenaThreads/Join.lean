import ArenaThreads.Failure
import ArenaThreads.Time
/-!
Waiting for a thread to be gone: read the join word, look at the clock, wait for the word to change,
and again. The machine takes one reading or one answer of the kernel at a time.
-/

namespace ArenaThreads

inductive JoinPhase
  | load
  | clock (seen : Nat)
  | wait (seen : Nat) (left : Option Duration)
  | recheck
  | finished (result : Except Error Unit)
  deriving DecidableEq

structure Join where
  deadline : Option Instant
  phase : JoinPhase
  deriving DecidableEq

namespace Join

/-- A deadline that the clock never reaches is none. -/
def start (timeout : Option Duration) (now : Instant) : Join :=
  ⟨timeout.bind now.after?, .load⟩

def load (word : Nat) (join : Join) : Join :=
  match join.phase with
  | .load =>
    if word = 0 then { join with phase := .finished (.ok ()) }
    else if join.deadline.isSome then { join with phase := .clock word }
    else { join with phase := .wait word none }
  | .recheck =>
    if word = 0 then { join with phase := .finished (.ok ()) }
    else { join with phase := .finished (.error .timedOut) }
  | _ => join

def tick (now : Instant) (join : Join) : Join :=
  match join.phase, join.deadline with
  | .clock seen, some deadline =>
    if deadline.nanos ≤ now.nanos then { join with phase := .finished (.error .timedOut) }
    else { join with phase := .wait seen (some (now.left deadline)) }
  | _, _ => join

def answer (outcome : Except OsError Unit) (join : Join) : Join :=
  match join.phase with
  | .wait .. =>
    match outcome with
    | .ok () => { join with phase := .load }
    | .error error =>
      if error = .wouldBlock ∨ error = .interrupted then { join with phase := .load }
      else if error.isTimeout then { join with phase := .recheck }
      else { join with phase := .finished (.error (.wait error)) }
  | _ => join

def result? (join : Join) : Option (Except Error Unit) :=
  match join.phase with
  | .finished result => some result
  | _ => none

end Join

end ArenaThreads
