import ArenaThreads.Outcome
/-! Error codes of the operating system and their wording. -/

namespace ArenaThreads

structure OsError where
  code : Int
  deriving DecidableEq, Repr

namespace OsError

def interrupted : OsError := ⟨4⟩

def wouldBlock : OsError := ⟨11⟩

def outOfMemory : OsError := ⟨12⟩

def notImplemented : OsError := ⟨38⟩

def timedOut : OsError := ⟨110⟩

def isTimeout (error : OsError) : Bool := error = timedOut

/-- The codes that have a wording of their own. -/
def kinds : List (Int × String) := [
  (1, "permission denied"), (2, "entity not found"), (4, "operation interrupted"),
  (5, "input/output error"), (7, "argument list too long"), (11, "operation would block"),
  (12, "out of memory"), (13, "permission denied"), (16, "resource busy"),
  (17, "entity already exists"), (18, "cross-device link or rename"), (20, "not a directory"),
  (21, "is a directory"), (22, "invalid input parameter"), (23, "too many open files"),
  (24, "too many open files"), (26, "executable file busy"), (27, "file too large"),
  (28, "no storage space"), (29, "seek on unseekable file"),
  (30, "read-only filesystem or storage medium"), (31, "too many links"), (32, "broken pipe"),
  (35, "deadlock"), (36, "invalid filename"), (38, "unsupported"), (39, "directory not empty"),
  (40, "filesystem loop or indirection limit (e.g. symlink loop)"), (95, "unsupported"),
  (98, "address in use"), (99, "address not available"), (100, "network down"),
  (101, "network unreachable"), (103, "connection aborted"), (104, "connection reset"),
  (107, "not connected"), (110, "timed out"), (111, "connection refused"),
  (113, "host unreachable"), (115, "in progress"), (116, "stale network file handle"),
  (122, "quota exceeded")]

def kind (error : OsError) : String := (kinds.lookup error.code).getD "uncategorized error"

def message (error : OsError) : String :=
  error.kind ++ " (os error " ++ toString error.code ++ ")"

def debug (error : OsError) : String := "OsError(" ++ toString error.code ++ ")"

end OsError

end ArenaThreads
