import ArenaThreads.Log.Settings
import ArenaThreads.Text.Cut
/-! Paths as lists of components, and the file that a configured log path stands for. -/

namespace ArenaThreads

inductive Component
  | root
  | here
  | up
  | name (text : List Char)
  deriving DecidableEq, Repr

/-- A path, component by component; repeated separators and inner dots leave no trace. -/
abbrev Path := List Component

namespace Path

def separator : Char := '/'

def pieces : List Char → List (List Char)
  | [] => [[]]
  | c :: rest =>
    if c = separator then [] :: pieces rest
    else match pieces rest with
      | [] => [[c]]
      | piece :: others => (c :: piece) :: others

def component? (piece : List Char) : Option Component :=
  if piece = [] ∨ piece = ['.'] then none
  else if piece = ['.', '.'] then some .up
  else some (.name piece)

/-- A dot counts where it is the first piece of a relative path. -/
def parse (text : List Char) : Path :=
  let first := if text.head? = some separator then [Component.root]
    else if (pieces text).head? = some ['.'] then [Component.here] else []
  first ++ (pieces text).filterMap component?

def componentText : Component → List Char
  | .root => []
  | .here => ['.']
  | .up => ['.', '.']
  | .name text => text

def render (path : Path) : List Char :=
  if path = [.root] then [separator] else [separator].intercalate (path.map componentText)

def fileName? (path : Path) : Option (List Char) :=
  match path.getLast? with
  | some (.name text) => some text
  | _ => none

def parent? (path : Path) : Option Path :=
  match path.getLast? with
  | none | some .root => none
  | some _ => some path.dropLast

def directoryText (text : List Char) : List Char :=
  match (pieces text).reverse.dropWhile fun piece => (component? piece).isNone with
  | [] => ['.']
  | _ :: before =>
    match before.dropWhile fun piece => (component? piece).isNone with
    | [] => if text.head? = some separator then [separator] else ['.']
    | named => [separator].intercalate named.reverse

def join (directory name : List Char) : List Char :=
  if directory = [separator] then directory ++ name else directory ++ separator :: name

end Path

structure LogFile where
  directory : Path
  name : List Char
  deriving DecidableEq, Repr

namespace LogFile

def ofPath (path : Path) : LogFile where
  directory := (path.parent?.filter (· ≠ [])).getD [.here]
  name := path.fileName?.getD LogSettings.defaultFileName.toList

def path (file : LogFile) : Path := file.directory ++ [.name file.name]

def ofText (text : List Char) : LogFile := ofPath (Path.parse text)

def openedText (text : List Char) : List Char :=
  Path.join (Path.directoryText text) (ofText text).name

end LogFile

end ArenaThreads
