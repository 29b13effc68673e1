import ArenaThreads.Event
import ArenaThreads.Failure
/-! What the steps of a scenario answer. -/

namespace ArenaThreads.Scenario

structure ArenaView where
  capacity : Nat
  used : Nat
  remaining : Nat
  owned : Bool
  reserved : Bool
  deriving DecidableEq, Repr

inductive Place
  | null
  | heap
  | offset (offset : Nat)
  deriving DecidableEq, Repr

structure Now where
  context : String
  allocator : String
  deriving DecidableEq, Repr

inductive ResultView
  | number (number : Nat)
  | label (label : String)
  deriving DecidableEq, Repr

structure ThreadView where
  state : Option String
  isReady : Bool
  isRunning : Bool
  isStopped : Bool
  id : Nat
  function : Option String
  argument : Option Nat
  result : ResultView
  stack : Nat
  storage : Option Nat
  readable : Option Nat
  ownOffset : Option Nat
  starting : Option String
  deriving DecidableEq, Repr

inductive Record
  | block (label : Option String)
  | context (label : String)
  | flag (flag : Bool)
  deriving DecidableEq, Repr

inductive Content
  | rejected
  | unknownStep (name : String)
  | osError (error : OsError)
  | failure (failure : Failure)
  | ok
  | arena (view : ArenaView)
  | block (label : String) (place : Place) (space : Option (Nat × Nat))
  | bytes (bytes : Option (List UInt8))
  | now (now : Now)
  | changed (now : Now) (previous : Option String)
  | same (same : Bool) (first second : String)
  | text (text : String)
  | good (count : Nat)
  | records (records : List Record)
  | value (value : Nat)
  | woken (count : Nat)
  | waiters (woken rest ok : Nat)
  deriving DecidableEq, Repr

inductive Answer
  | single (content : Content) (thread : Option ThreadView) (log : List Event)
  | several (steps : List Answer) (ending : Now)

end ArenaThreads.Scenario
