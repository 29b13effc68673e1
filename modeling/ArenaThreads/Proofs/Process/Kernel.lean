import ArenaThreads.Proofs.Region.Layout
import ArenaThreads.System
/-!
What a process relies on: memory is mapped where nothing is mapped, and a launched thread has an id.
Everything else that the kernel answers may be anything. Runs in which this holds can be cut in two.
-/

namespace ArenaThreads

structure Mapping.Free (mapping : Mapping) (machine : Machine) : Prop where
  real : 0 < mapping.base
  fits : mapping.base + mapping.length ≤ wordLimit
  apart : ∀ other ∈ machine.mappings, mapping.Apart other

def MemoryAnswers.Lawful (machine : Machine) (answers : MemoryAnswers) : Prop :=
  ∀ length base, answers.map length = .ok base → Mapping.Free ⟨base, length⟩ machine

def LaunchAnswers.Lawful (answers : LaunchAnswers) : Prop :=
  answers.clone3 ≠ 0 ∧ answers.clone ≠ 0

/-- Page sizes are powers of two from 4096 bytes on. -/
def Pages.Real (page : Nat) : Prop := ∃ bits, 12 ≤ bits ∧ bits < 64 ∧ page = 2 ^ bits

theorem Pages.Real.roomy {page size : Nat} (real : Pages.Real page) (some : 0 < size) :
    Context.size + Arena.alignment ≤ Pages.round page size := by
  rcases real with ⟨bits, low, high, rfl⟩
  calc
    Context.size + Arena.alignment ≤ 2 ^ 12 := by decide
    _ ≤ 2 ^ bits := Nat.pow_le_pow_right (by decide) low
    _ ≤ Pages.round (2 ^ bits) size := Pages.page_le_round high some

/-- What is assumed of the kernel: it maps only memory that is free, and answers a launch with an id
that is not zero or with an error. Nothing is assumed of when it wakes a sleeper, or why. -/
def Move.Lawful (system : System) : Move → Prop
  | .call _ (.create _ _ answers) => answers.Lawful system.machine
  | .call _ (.start _ answers) => answers.Lawful
  | _ => True

namespace System

/-- A process that has not done anything about threads yet. -/
structure Fresh (system : System) : Prop where
  handles : ∀ name, system.handles name = .empty
  threads : system.threads = []
  wakes : system.wakes = []
  joining : ∀ name, system.joining name = none
  abandoned : system.abandoned = []
  registry : system.machine.registry = {}

def LawfulRun : List Move → System → Prop
  | [], _ => True
  | move :: rest, system => move.Lawful system ∧ LawfulRun rest (system.step move).1

theorem run_append (first second : List Move) (system : System) :
    system.run (first ++ second) = (system.run first).run second := by
  simp [run, List.foldl_append]

theorem run_cons (move : Move) (rest : List Move) (system : System) :
    system.run (move :: rest) = (system.step move).1.run rest := rfl

theorem lawful_append {first second : List Move} {system : System} :
    LawfulRun (first ++ second) system ↔
      LawfulRun first system ∧ LawfulRun second (system.run first) := by
  induction first generalizing system with
  | nil => simp [LawfulRun, run]
  | cons move rest ih => simp [LawfulRun, ih, run_cons, and_assoc]

theorem lawful_of_any {moves : List Move} {system : System}
    (lawful : ∀ move ∈ moves, ∀ reached, move.Lawful reached) : LawfulRun moves system := by
  induction moves generalizing system with
  | nil => trivial
  | cons move rest ih =>
    rw [List.forall_mem_cons] at lawful
    exact ⟨lawful.1 system, ih lawful.2⟩

theorem run_induction {Holds : System → Prop} {moves : List Move} {system : System}
    (holds : Holds system) (lawful : LawfulRun moves system)
    (keeps : ∀ system move, Holds system → move.Lawful system → Holds (system.step move).1) :
    Holds (system.run moves) := by
  induction moves generalizing system with
  | nil => exact holds
  | cons move rest ih =>
    rcases lawful with ⟨now, later⟩
    exact ih (keeps system move holds now) later

end System

/-! A kernel that has memory at one place and gives every thread the same id -/

def MemoryAnswers.upTo (base bound : Nat) : MemoryAnswers :=
  ⟨fun length => if length ≤ bound then .ok base else .error .outOfMemory, none⟩

theorem MemoryAnswers.upTo_base {base bound length place : Nat}
    (answered : (upTo base bound).map length = .ok place) : place = base := by
  simp only [upTo] at answered
  split at answered
  · cases answered
    rfl
  · cases answered

theorem MemoryAnswers.upTo_ends {base bound length place : Nat}
    (answered : (upTo base bound).map length = .ok place) : place + length ≤ base + bound := by
  obtain rfl := upTo_base answered
  by_contra long
  have more : ¬length ≤ bound := by omega
  simp [upTo, more] at answered

theorem MemoryAnswers.upTo_lawful {base bound : Nat} {machine : Machine} (real : 0 < base)
    (fits : base + bound ≤ wordLimit)
    (apart : ∀ other ∈ machine.mappings, Mapping.Apart ⟨base, bound⟩ other) :
    (upTo base bound).Lawful machine := by
  intro length place answered
  have ends := upTo_ends answered
  have same := (upTo_base answered).symm
  subst same
  refine ⟨real, Nat.le_trans ends fits, ?_⟩
  intro other mapped
  have clear := apart other mapped
  simp only [Mapping.Apart] at clear ⊢
  omega

def Move.createAt (name base argument : Nat) : Move :=
  .call name (.create ⟨.identity, argument, some .standard, {}⟩ ⟨0, 0⟩ (.upTo base (2 ^ 30)))

def Move.startAs (name id : Nat) : Move := .call name (.start ⟨0, 0⟩ ⟨id, id⟩)

end ArenaThreads
