import ArenaThreads.OsError
/-! Why a call on a thread handle fails: errors that it returns, and misuse that stops the caller. -/

namespace ArenaThreads

inductive Error
  | outOfMemory (cause : OsError)
  | spawn (cause : OsError)
  | wait (cause : OsError)
  | timedOut
  | busy
  deriving DecidableEq, Repr

namespace Error

def cause? : Error → Option OsError
  | outOfMemory cause | spawn cause | wait cause => some cause
  | timedOut | busy => none

def isTimeout (error : Error) : Bool := error = timedOut

def message : Error → String
  | outOfMemory cause => "Failed to reserve thread memory: " ++ cause.message
  | spawn cause => "Failed to launch thread: " ++ cause.message
  | wait cause => "Failed to wait for thread: " ++ cause.message
  | timedOut => "Timed out waiting for thread"
  | busy => "Thread is running and has not been joined"

def debug : Error → String
  | outOfMemory cause => "OutOfMemory(" ++ cause.debug ++ ")"
  | spawn cause => "Spawn(" ++ cause.debug ++ ")"
  | wait cause => "Wait(" ++ cause.debug ++ ")"
  | timedOut => "TimedOut"
  | busy => "Busy"

end Error

/-- Calls that a handle forbids in its present state. -/
inductive Misuse
  | startBeforeCreate
  | startNotReady
  | stopNeverStarted
  | stopDestroyed
  deriving DecidableEq, Repr

namespace Misuse

def message : Misuse → String
  | startBeforeCreate => "Thread::start called before create"
  | startNotReady => "Thread::start called on a thread that is not READY"
  | stopNeverStarted => "Thread::stop called on a thread that was never started"
  | stopDestroyed => "Thread::stop called on a destroyed thread"

end Misuse

inductive Failure
  | error (error : Error)
  | misuse (misuse : Misuse)
  deriving DecidableEq, Repr

end ArenaThreads
