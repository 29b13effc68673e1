import ArenaThreads.Log.Backend
import ArenaThreads.Log.Filter
import ArenaThreads.Log.Path
/-! The backend of a running log: lists of directives, and files below the working directory. -/

namespace ArenaThreads

namespace WorkingTree

def isFileName (text : List Char) : Bool := !text.contains '\x00' && Text.byteLength text ≤ 255

def hasDirectory (tree : WorkingTree) (place : FilePlace) : Bool :=
  place = [] || tree.directories.contains place ||
    tree.files.any fun file => place.length < file.length && place.isPrefixOf file

/-- One component further. A directory that is missing is made; nothing lies below a file. -/
def enter : Location × WorkingTree → Component → Option (Location × WorkingTree)
  | (_, tree), .root => some (.outside, tree)
  | (location, tree), .here => some (location, tree)
  | (.outside, tree), .up => some (.outside, tree)
  | (.inside place, tree), .up =>
    some (if place = [] then .outside else .inside place.dropLast, tree)
  | (.outside, tree), .name text => if isFileName text then some (.outside, tree) else none
  | (.inside place, tree), .name text =>
    let next := place ++ [text]
    if isFileName text && !tree.hasFile next then
      some (.inside next, { tree with directories := next :: tree.directories })
    else none

def openLog (file : LogFile) (tree : WorkingTree) : Option (Location × WorkingTree) :=
  match file.directory.foldlM enter (.inside [], tree) with
  | none => none
  | some (directory, entered) =>
    if !isFileName file.name then none
    else match directory with
      | .outside => some (.outside, entered)
      | .inside directory =>
        let place := directory ++ [file.name]
        if entered.hasDirectory place then none
        else if entered.hasFile place then some (.inside place, entered)
        else some (.inside place, { entered with files := entered.files ++ [place] })

def longestPath : Nat := 4095

def openFile (directory name : List Char) (tree : WorkingTree) : Option (Location × WorkingTree) :=
  if Text.byteLength (Path.join directory name) ≤ longestPath then
    tree.openLog ⟨Path.parse directory, name⟩
  else none

end WorkingTree

def LogBackend.standard : LogBackend LogFilter where
  parse := LogFilter.parse
  parseLossy := LogFilter.parseLossy
  admits := LogFilter.admits
  openFile := WorkingTree.openFile

end ArenaThreads
