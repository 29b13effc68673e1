import ArenaThreads.Environment
import ArenaThreads.Event
import ArenaThreads.Pages
/-! Stack and storage sizes of new threads: defaults, environment overrides and rounding. -/

namespace ArenaThreads

structure Sizing where
  stack : Nat := 256 * 1024
  storage : Nat := 64 * 1024
  deriving DecidableEq, Repr

namespace Sizing

def minimumStack : Nat := 16 * 1024

def stackVariable : String := "TYPTHON_THREAD_STACK_SIZE"

def storageVariable : String := "TYPTHON_THREAD_STORAGE_SIZE"

def override (env : Environment) (name : String) : Option Nat × List Event :=
  match env.text? name with
  | none => (none, [])
  | some text =>
    match Size.parse? text.toList with
    | some size => (some size, [])
    | none => (none, [.malformedSize name text])

def ofEnvironment (env : Environment) : Sizing × List Event :=
  let (stack, stackEvents) := override env stackVariable
  let (storage, storageEvents) := override env storageVariable
  let standard : Sizing := {}
  (⟨stack.getD standard.stack, storage.getD standard.storage⟩, stackEvents ++ storageEvents)

def rounded (page : Nat) (sizing : Sizing) : Sizing :=
  ⟨Pages.round page (max sizing.stack minimumStack), Pages.round page (max sizing.storage 1)⟩

end Sizing

/-- The sizes of a process, which are read from its environment once. -/
structure SizingCache where
  value : Option Sizing := none
  deriving DecidableEq, Repr

namespace SizingCache

def read (env : Environment) (cache : SizingCache) : Sizing × List Event × SizingCache :=
  match cache.value with
  | some sizing => (sizing, [], cache)
  | none =>
    let (sizing, events) := Sizing.ofEnvironment env
    (sizing, events, ⟨some sizing⟩)

end SizingCache

end ArenaThreads
