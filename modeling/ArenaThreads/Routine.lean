import ArenaThreads.Context
import ArenaThreads.Shared
import ArenaThreads.Size
/-!
Thread functions as trees of atomic steps: each step names what the thread asks for, and each answer
leads to the rest. Every branch ends in a result.
-/

namespace ArenaThreads

inductive Routine
  | done (result : Nat)
  | current (next : Nat → Routine)
  | setCurrent (context : Nat) (next : Nat → Routine)
  | resize (allocator : Allocator) (block : Option Nat) (oldSize newSize : Nat)
      (next : Option Nat → Routine)
  | fillUp (allocator : Allocator) (size : Nat) (next : Nat → Routine)
  | read (start length : Nat) (next : List UInt8 → Routine)
  | write (start length : Nat) (bytes : Nat → UInt8) (next : Routine)
  /-- A step on what threads share; without an outcome it has to wait. -/
  | share (act : Shared → Option Shared) (next : Routine)

namespace Routine

instance : Inhabited Routine := ⟨done 0⟩

def allocator (next : Allocator → Routine) : Routine :=
  current fun context => read context Context.size fun bytes => next (Context.ofBytes bytes).allocator

def complement (word : Nat) : Nat := wordLimit - 1 - word

def sum (count : Nat) : Routine :=
  allocator fun allocator =>
    resize allocator none 0 (8 * count % wordLimit) fun
      | none => done 0
      | some block =>
        write block (8 * count) (fun i => WordBytes.byte (i / 8 + 1) (i % 8))
          (done (count * (count + 1) / 2 % wordLimit))

def exhaust (size : Nat) : Routine := allocator fun allocator => fillUp allocator size done

end Routine

structure ThreadFunction where
  label : String
  body : Nat → Routine

namespace ThreadFunction

instance : Inhabited ThreadFunction := ⟨⟨"", Routine.done⟩⟩

def identity : ThreadFunction := ⟨"identity", Routine.done⟩

def invert : ThreadFunction := ⟨"invert", fun word => Routine.done (Routine.complement word)⟩

def sum : ThreadFunction := ⟨"sum", Routine.sum⟩

def exhaust : ThreadFunction := ⟨"exhaust", Routine.exhaust⟩

end ThreadFunction

end ArenaThreads
