import ArenaThreads.ControlBlock
import ArenaThreads.OsError
/-!
Launching a thread: the newer call first, the older one when the kernel does not know the newer, and
never the newer one again after that.
-/

namespace ArenaThreads

inductive LaunchCall
  | clone3 (arguments : CloneArguments)
  | clone (flags stackPointer parentWord childWord : Nat)
  deriving DecidableEq, Repr

namespace LaunchCall

structure Meaning where
  flags : Nat
  stackPointer : Nat
  setWord : Nat
  clearWord : Nat
  deriving DecidableEq, Repr

def meaning : LaunchCall → Meaning
  | clone3 arguments =>
    ⟨arguments.flags, arguments.stack + arguments.stackSize, arguments.parentWord,
      arguments.childWord⟩
  | clone flags stackPointer parentWord childWord => ⟨flags, stackPointer, parentWord, childWord⟩

end LaunchCall

/-- Answers of the kernel: a thread id, or an error code with its sign turned. -/
structure LaunchAnswers where
  clone3 : Int
  clone : Int
  deriving DecidableEq, Repr

structure Launch where
  answer : Int
  calls : List LaunchCall
  missing : Bool
  noticed : Bool
  deriving DecidableEq, Repr

namespace Launch

/-- The new thread shares the address space, files and signal handlers of the process, and the kernel
sets the join word when it begins and clears it when it is gone. -/
def flags : Nat :=
  0x100 + 0x200 + 0x400 + 0x800 + 0x10000 + 0x40000 + 0x100000 + 0x200000

def arguments (word : Nat) (block : ControlBlock) : CloneArguments :=
  { flags := flags, childWord := word, parentWord := word, stack := block.stackLow,
    stackSize := block.stackSize }

def notImplemented : Int := -OsError.notImplemented.code

def run (word block : Nat) (contents : ControlBlock) (missing : Bool) (answers : LaunchAnswers) :
    Launch :=
  let newer := LaunchCall.clone3 (arguments word contents)
  let older := LaunchCall.clone flags block word word
  if missing then ⟨answers.clone, [older], true, false⟩
  else if answers.clone3 = notImplemented then ⟨answers.clone, [newer, older], true, true⟩
  else ⟨answers.clone3, [newer], false, false⟩

end Launch

end ArenaThreads
