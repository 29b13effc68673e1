import ArenaThreads.Event
import ArenaThreads.Text.Cut
/-! What a log is built on: filters of events that are read from texts, and the opening of files. -/

namespace ArenaThreads

abbrev FilePlace := List (List Char)

/-- What is known to be below the working directory; the directories that lead to a file are there too. -/
structure WorkingTree where
  files : List FilePlace := []
  directories : List FilePlace := []
  deriving DecidableEq, Repr

def WorkingTree.hasFile (tree : WorkingTree) (place : FilePlace) : Bool := tree.files.contains place

inductive Location
  | inside (place : FilePlace)
  | outside
  deriving DecidableEq, Repr

inductive FilterTrouble
  | malformed
  | broken (cut : Text.BrokenCut)
  deriving DecidableEq, Repr

structure LogBackend (φ : Type) where
  parse : String → Except FilterTrouble φ
  parseLossy : String → φ
  admits : φ → Event → Bool
  /-- Opens a file by the texts of its directory and of its name; none when something is in the way. -/
  openFile : List Char → List Char → WorkingTree → Option (Location × WorkingTree)

end ArenaThreads
