import ArenaThreads.Log.Pattern.Class
import ArenaThreads.Text.Alphanumeric
import ArenaThreads.Text.Decimal
/-!
Values that fields are compared with: numbers, and patterns. No event is in a span, so a value is never
compared with anything; it only has to be well formed.
-/

namespace ArenaThreads.Pattern

inductive Opening
  | settings (mode : Mode)
  | group (mode : Mode) (name : Option (List Char))
  deriving DecidableEq, Repr

def isName : List Char → Bool
  | [] => false
  | c :: rest =>
    (c = '_' || Text.isAlphabetic c) &&
      rest.all fun c => c ∈ ['_', '.', '[', ']'] || Text.isAlphanumeric c

def namedGroup? (mode : Mode) (text : List Char) : Option (Opening × List Char) :=
  let name := text.takeWhile (· ≠ '>')
  match text.dropWhile (· ≠ '>') with
  | [] => none
  | _ :: rest => if isName name then some (.group mode (some name), rest) else none

/-- Letters of settings, each at most once; those after the hyphen are turned off. -/
def areSettings (letters : List Char) : Bool :=
  letters.all (['-', 'i', 'm', 's', 'U', 'u', 'R', 'x'].contains ·) && decide letters.Nodup &&
    letters.getLast? ≠ some '-'

def Mode.changed (letters : List Char) (mode : Mode) : Mode :=
  let setting (letter : Char) (before : Bool) : Bool :=
    if letter ∈ letters.takeWhile (· ≠ '-') then true
    else if letter ∈ letters then false
    else before
  ⟨setting 'i' mode.anyCase, setting 'x' mode.spaced, setting 'u' mode.unicode⟩

def settings? (mode : Mode) (text : List Char) : Option (Opening × List Char) :=
  let letters := text.takeWhile fun c => c ≠ ':' ∧ c ≠ ')'
  if areSettings letters then
    match text.drop letters.length with
    | ':' :: rest => some (.group (mode.changed letters) none, rest)
    | ')' :: rest => if letters = [] then none else some (.settings (mode.changed letters), rest)
    | _ => none
  else none

def opening? (mode : Mode) (text : List Char) : Option (Opening × List Char) :=
  match skip mode text with
  | '?' :: 'P' :: '<' :: rest | '?' :: '<' :: rest => namedGroup? mode rest
  | '?' :: rest => settings? mode rest
  | rest => some (.group mode none, rest)

structure Reader where
  mode : Mode := {}
  level : Level := {}
  outer : List (Mode × Level) := []
  names : List (List Char) := []
  deriving DecidableEq, Repr

namespace Reader

def add (depth : Nat) (reader : Reader) : Reader := { reader with level := reader.level.add depth }

def addAtom? (atom : Atom) (reader : Reader) : Option Reader :=
  if admits reader.mode atom then some (reader.add 0) else none

def enter? (opening : Opening) (reader : Reader) : Option Reader :=
  match opening with
  | .settings mode =>
    some { reader with
      mode := mode
      level := { reader.level with pieces := reader.level.pieces.addSettings } }
  | .group mode name =>
    if name.any reader.names.contains then none
    else some
      { mode := mode
        outer := (reader.mode, reader.level) :: reader.outer
        names := name.toList ++ reader.names }

def leave? (reader : Reader) : Option Reader :=
  match reader.outer with
  | [] => none
  | (mode, level) :: outer =>
    some { reader with mode := mode, level := level.add (reader.level.depth + 1), outer := outer }

def alternate (reader : Reader) : Reader :=
  { reader with level := { left := some (max (reader.level.left.getD 0) reader.level.pieces.depth) } }

def repeatLast? (reader : Reader) : Option Reader :=
  reader.level.pieces.repeatLast?.map fun pieces =>
    { reader with level := { reader.level with pieces := pieces } }

def depth? (reader : Reader) : Option Nat := if reader.outer = [] then some reader.level.depth else none

/-- Reads the next part of a pattern. A count of repetitions never comes to its end, since a value holds
no brace that closes. -/
def next? (reader : Reader) : List Char → Option (Reader × List Char)
  | '(' :: rest =>
    (opening? reader.mode rest).bind fun (opening, after) =>
      (reader.enter? opening).map fun entered => (entered, after)
  | ')' :: rest => reader.leave?.map fun left => (left, rest)
  | '|' :: rest => some (reader.alternate, rest)
  | '[' :: rest => (class? reader.mode rest).map fun (depth, after) => (reader.add depth, after)
  | '?' :: '?' :: rest | '*' :: '?' :: rest | '+' :: '?' :: rest
  | '?' :: rest | '*' :: rest | '+' :: rest => reader.repeatLast?.map fun repeated => (repeated, rest)
  | '{' :: _ => none
  | '.' :: rest => if reader.mode.unicode then some (reader.add 0, rest) else none
  | '^' :: rest | '$' :: rest => some (reader.add 0, rest)
  | text =>
    (atom? reader.mode text).bind fun (atom, rest) =>
      (reader.addAtom? atom).map fun added => (added, rest)

def read? : Nat → Reader → List Char → Option Nat
  | 0, _, _ => none
  | limit + 1, reader, text =>
    match skip reader.mode text with
    | [] => reader.depth?
    | text => (reader.next? text).bind fun (changed, rest) => read? limit changed rest

end Reader

def maxDepth : Nat := 250

def isPattern (text : List Char) : Bool :=
  (Reader.read? (text.length + 1) {} text).any (· ≤ maxDepth)

def isValue (text : List Char) : Bool := Text.isDecimal text || isPattern text

end ArenaThreads.Pattern
