import ArenaThreads.Routine
/-!
Programs: thread functions written as instructions on numbered slots, which hold blocks, and on
numbered guards, which hold contexts to put back. Each instruction leaves a note.
-/

namespace ArenaThreads

inductive ContextChoice
  | own
  | context (address : Nat)
  deriving DecidableEq, Repr

inductive Instruction
  | alloc (slot size : Nat)
  | free (slot : Nat)
  | realloc (slot size : Nat)
  | fill (slot : Nat) (byte : UInt8)
  | current
  | set (context : ContextChoice)
  | push (guard : Nat) (context : ContextChoice)
  | pop (guard : Nat)
  | gate (gate : Nat)
  | add (word : Nat) (amount : UInt32)
  deriving DecidableEq, Repr

inductive ProgramResult
  | word (word : Nat)
  | slot (slot : Nat)
  | context
  deriving DecidableEq, Repr

structure Program where
  code : List Instruction
  result : ProgramResult
  deriving DecidableEq, Repr

namespace Program

structure Slot where
  block : Option Nat := none
  size : Nat := 0
  deriving DecidableEq, Repr

def guardCount : Nat := 8

structure State where
  own : Nat
  slots : Cells Nat Slot := fun _ => {}
  guards : Cells Nat (Option Nat) := fun _ => none

namespace State

def choose (choice : ContextChoice) (state : State) : Nat :=
  match choice with
  | .own => state.own
  | .context address => address

def setSlot (slot : Nat) (content : Slot) (state : State) : State :=
  { state with slots := state.slots.set slot content }

def setGuard (guard : Nat) (content : Option Nat) (state : State) : State :=
  { state with guards := state.guards.set guard content }

end State

def note (key : Nat) (content : Note) (next : Routine) : Routine :=
  .share (fun shared => some (shared.note key content)) next

def noteCurrent (key : Nat) (next : Routine) : Routine :=
  .current fun context => note key (.context context) next

def release (guard : Nat) (state : State) (next : State → Routine) : Routine :=
  match state.guards guard with
  | none => next state
  | some previous => .setCurrent previous fun _ => next (state.setGuard guard none)

def releaseAll (next : State → Routine) : Nat → State → Routine
  | 0, state => next state
  | count + 1, state => release count state (releaseAll next count)

def finish (result : ProgramResult) (state : State) : Routine :=
  match result with
  | .word word => .done word
  | .slot slot => .done ((state.slots slot).block.getD 0)
  | .context => .current fun context => .done context

def step (key : Nat) (instruction : Instruction) (state : State) (next : State → Routine) :
    Routine :=
  match instruction with
  | .alloc slot size =>
    .allocator fun allocator => .resize allocator none 0 size fun block =>
      note key (.block block)
        (next (state.setSlot slot ⟨block, if block.isSome then size else 0⟩))
  | .free slot =>
    match state.slots slot with
    | ⟨none, _⟩ => note key (.flag false) (next state)
    | ⟨some block, size⟩ =>
      .allocator fun allocator => .resize allocator (some block) size 0 fun _ =>
        note key (.flag true) (next (state.setSlot slot {}))
  | .realloc slot size =>
    match state.slots slot with
    | ⟨none, _⟩ => note key (.block none) (next state)
    | ⟨some block, oldSize⟩ =>
      .allocator fun allocator => .resize allocator (some block) oldSize size fun
        | none => note key (.block none) (next state)
        | some fresh => note key (.block (some fresh)) (next (state.setSlot slot ⟨some fresh, size⟩))
  | .fill slot byte =>
    match state.slots slot with
    | ⟨none, _⟩ => note key (.flag false) (next state)
    | ⟨some block, size⟩ => .write block size (fun _ => byte) (note key (.flag true) (next state))
  | .current => noteCurrent key (next state)
  | .set choice =>
    .setCurrent (state.choose choice) fun previous => note key (.context previous) (next state)
  | .push guard choice =>
    release guard state fun released =>
      .setCurrent (released.choose choice) fun previous =>
        noteCurrent key (next (released.setGuard guard (some previous)))
  | .pop guard => release guard state fun released => noteCurrent key (next released)
  | .gate gate =>
    .share (fun shared =>
      if shared.openGates gate then some (shared.note key (.flag true)) else none) (next state)
  | .add word amount =>
    .share (fun shared => some ((shared.addWord word amount).note key (.flag true))) (next state)

def runFrom (key : Nat) (result : ProgramResult) : List Instruction → State → Routine
  | [], state => releaseAll (finish result) guardCount state
  | instruction :: rest, state => step key instruction state (runFrom key result rest)

def routine (program : Program) (key : Nat) : Routine :=
  .current fun own => runFrom key program.result program.code { own := own }

def contexts (program : Program) : List Nat :=
  program.code.filterMap fun
    | .set (.context address) | .push _ (.context address) => some address
    | _ => none

def gates (program : Program) : List Nat :=
  program.code.filterMap fun
    | .gate gate => some gate
    | _ => none

end Program

namespace ThreadFunction

/-- The function that runs a program; its argument is the key of the program's notes. -/
def program (program : Program) : ThreadFunction := ⟨"program", program.routine⟩

end ThreadFunction

end ArenaThreads
