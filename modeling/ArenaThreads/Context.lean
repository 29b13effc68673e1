import ArenaThreads.Memory
import ArenaThreads.Size
/-! Contexts: the allocator that code on a thread uses, kept as two words of memory. -/

namespace ArenaThreads

inductive AllocatorKind
  | heap
  | arena
  deriving DecidableEq, Repr

/-- An allocator is a kind and, for an arena, the address where that arena is kept. -/
structure Allocator where
  kind : AllocatorKind
  data : Nat
  deriving DecidableEq, Repr

namespace Allocator

def heap : Allocator := ⟨.heap, 0⟩

def arena (place : Nat) : Allocator := ⟨.arena, place⟩

def sameAs (first second : Allocator) : Bool := first = second

/-- Addresses are shown only as null or not. -/
def debug (allocator : Allocator) : String :=
  "Allocator \x7b alloc_fn: PTR, data: " ++ (if allocator.data = 0 then "0x0" else "PTR") ++ " \x7d"

end Allocator

structure Context where
  allocator : Allocator
  deriving DecidableEq, Repr

namespace Context

def standard : Context := ⟨.heap⟩

def debug (context : Context) : String :=
  "Context \x7b allocator: " ++ context.allocator.debug ++ " \x7d"

def size : Nat := 16

def kindWord : AllocatorKind → Nat
  | .heap => 1
  | .arena => 2

def byte (context : Context) (i : Nat) : UInt8 :=
  if i < 8 then WordBytes.byte (kindWord context.allocator.kind) i
  else WordBytes.byte context.allocator.data (i - 8)

def ofBytes (bytes : List UInt8) : Context :=
  let kind := if WordBytes.value (bytes.take 8) = kindWord .arena then .arena else .heap
  ⟨⟨kind, WordBytes.value ((bytes.drop 8).take 8)⟩⟩

def store (context : Context) (address : Nat) (memory : Memory) : Memory :=
  memory.write address size context.byte

def load (address : Nat) (memory : Memory) : Context := ofBytes (memory.read address size)

theorem bytes_eq (context : Context) :
    (List.range size).map context.byte =
      (List.range 8).map (WordBytes.byte (kindWord context.allocator.kind)) ++
        (List.range 8).map (WordBytes.byte context.allocator.data) := rfl

theorem load_store (context : Context) (address : Nat) (memory : Memory)
    (fits : context.allocator.data < wordLimit) :
    load address (context.store address memory) = context := by
  obtain ⟨⟨kind, data⟩⟩ := context
  have kept : data % Nat.pow 256 8 = data := Nat.mod_eq_of_lt fits
  rw [load, store, Memory.read_write, bytes_eq, ofBytes, List.take_left' (by simp),
    List.drop_left' (by simp), List.take_of_length_le (by simp), WordBytes.value_bytes,
    WordBytes.value_bytes, kept]
  cases kind <;> rfl

end Context

end ArenaThreads
