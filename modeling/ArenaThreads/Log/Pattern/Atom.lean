import ArenaThreads.Text.Blank
/-!
The smallest parts of patterns, and the settings that they are read under. A pattern is a regular
expression over characters; what would take a table of properties or of cases of all characters is
not to be had in it.
-/

namespace ArenaThreads.Pattern

structure Mode where
  anyCase : Bool := false
  spaced : Bool := false
  unicode : Bool := true
  deriving DecidableEq, Repr

inductive Atom
  | literal (c : Char) (byte : Bool)
  | kind (negated : Bool)
  | wordEdge
  | textEdge
  deriving DecidableEq, Repr

def skipSpaces (inComment : Bool) : List Char → List Char
  | [] => []
  | c :: rest =>
    if inComment then skipSpaces (c ≠ '\n') rest
    else if Text.isBlank c then skipSpaces false rest
    else if c = '#' then skipSpaces true rest
    else c :: rest

def skip (mode : Mode) (text : List Char) : List Char :=
  if mode.spaced then skipSpaces false text else text

def peek? (mode : Mode) (text : List Char) : Option Char :=
  if mode.spaced then
    match text.dropWhile Text.isBlank with
    | '#' :: rest => (rest.dropWhile Text.isBlank).head?
    | rest => rest.head?
  else text.head?

def hexDigit? (c : Char) : Option Nat :=
  if '0' ≤ c ∧ c ≤ '9' then some (c.toNat - '0'.toNat)
  else if 'a' ≤ c ∧ c ≤ 'f' then some (c.toNat - 'a'.toNat + 10)
  else if 'A' ≤ c ∧ c ≤ 'F' then some (c.toNat - 'A'.toNat + 10)
  else none

def hexNumber? (mode : Mode) : Nat → Nat → List Char → Option (Nat × List Char)
  | 0, number, text => some (number, text)
  | count + 1, number, text =>
    match skip mode text with
    | [] => none
    | c :: rest => (hexDigit? c).bind fun digit => hexNumber? mode count (16 * number + digit) rest

def coded? (mode : Mode) (digits : Nat) (text : List Char) : Option (Atom × List Char) :=
  match hexNumber? mode digits 0 text with
  | none => none
  | some (code, rest) =>
    if code.isValidChar then some (.literal (Char.ofNat code) (digits = 2), rest) else none

/-- What stands after a backslash. A brace after a letter never closes, since a value holds none that
closes. -/
def escaped? (mode : Mode) : List Char → Option (Atom × List Char)
  | [] => none
  | c :: rest =>
    if c = 'x' then coded? mode 2 rest
    else if c = 'u' then coded? mode 4 rest
    else if c = 'U' then coded? mode 8 rest
    else if c ∈ ['d', 's', 'w'] then some (.kind false, rest)
    else if c ∈ ['D', 'S', 'W'] then some (.kind true, rest)
    else if c ∈ ['b', 'B', '<', '>'] then some (.wordEdge, rest)
    else if c ∈ ['A', 'z'] then some (.textEdge, rest)
    else if c ∈ ['a', 'f', 't', 'n', 'r', 'v'] then some (.literal (control c) false, rest)
    else if c.toNat < 128 ∧ ¬c.isAlphanum then some (.literal c false, rest)
    else none
where
  control : Char → Char
    | 'a' => '\x07'
    | 'f' => '\x0c'
    | 't' => '\t'
    | 'n' => '\n'
    | 'r' => '\r'
    | _ => '\x0b'

def atom? (mode : Mode) : List Char → Option (Atom × List Char)
  | [] => none
  | '\\' :: rest => escaped? mode rest
  | c :: rest => some (.literal c false, rest)

def admits (mode : Mode) : Atom → Bool
  | .literal c byte => if mode.unicode then !mode.anyCase else !byte || c.toNat < 128
  | .kind negated => !mode.unicode && !negated
  | .wordEdge => !mode.unicode
  | .textEdge => true

end ArenaThreads.Pattern
