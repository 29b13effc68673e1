import ArenaThreads.Size
/-! What the library reports about itself: events, their severity and their fields. -/

namespace ArenaThreads

inductive Level
  | trace
  | debug
  | info
  | warn
  | error
  deriving DecidableEq, Repr

namespace Level

def severity : Level → Nat
  | trace => 0
  | debug => 1
  | info => 2
  | warn => 3
  | error => 4

def name : Level → String
  | trace => "trace"
  | debug => "debug"
  | info => "info"
  | warn => "warn"
  | error => "error"

def upperName : Level → String
  | trace => "TRACE"
  | debug => "DEBUG"
  | info => "INFO"
  | warn => "WARN"
  | error => "ERROR"

end Level

inductive Event
  | arenaReserved (size mapped address : Nat)
  | arenaReleased (size address : Nat)
  | threadCreated (stack storage : Nat) (reused : Bool)
  | threadStarted (tid : Nat)
  | threadJoined (tid : Nat)
  | threadDestroyed (tid : Nat)
  | threadFailed (operation error : String)
  | cloneFallback
  | malformedSize (name value : String)
  deriving DecidableEq, Repr

inductive FieldValue
  | text (text : String)
  | number (number : Nat)
  | flag (flag : Bool)
  | address (address : Nat)
  | threadId (tid : Nat)
  deriving DecidableEq, Repr

namespace Event

def level : Event → Level
  | threadDestroyed _ => .trace
  | threadFailed .. | malformedSize .. => .warn
  | _ => .debug

def target : Event → String
  | arenaReserved .. | arenaReleased .. => "arena"
  | _ => "thread"

def message : Event → String
  | arenaReserved .. => "arena reserved"
  | arenaReleased .. => "arena released"
  | threadCreated .. => "Thread created"
  | threadStarted _ => "Thread started"
  | threadJoined _ => "Thread joined"
  | threadDestroyed _ => "Thread destroyed"
  | threadFailed .. => "Thread operation failed"
  | cloneFallback => "clone3 unavailable, using clone"
  | malformedSize .. => "Ignoring malformed size"

/-- The fields besides the message, in the order in which they are written. -/
def fields : Event → List (String × FieldValue)
  | arenaReserved size mapped address =>
    [("size_bytes", .number size), ("mapped_bytes", .number mapped), ("address", .address address)]
  | arenaReleased size address => [("size_bytes", .number size), ("address", .address address)]
  | threadCreated stack storage reused =>
    [("event", .text "create"), ("stack_bytes", .number stack), ("storage_bytes", .number storage),
      ("reused", .flag reused)]
  | threadStarted tid => [("event", .text "start"), ("tid", .threadId tid)]
  | threadJoined tid => [("event", .text "stop"), ("tid", .threadId tid)]
  | threadDestroyed tid => [("event", .text "destroy"), ("tid", .threadId tid)]
  | threadFailed operation error =>
    [("event", .text "thread_error"), ("operation", .text operation), ("error", .text error)]
  | cloneFallback => []
  | malformedSize name value => [("variable", .text name), ("value", .text value)]

def fieldNames (event : Event) : List String := "message" :: event.fields.map Prod.fst

end Event

end ArenaThreads
