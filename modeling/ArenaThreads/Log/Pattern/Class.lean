import ArenaThreads.Log.Pattern.Atom
/-!
Classes of characters in brackets: characters, ranges, named sets and other classes, and the signs for
sets in common, differences and the like between them. Of a class only its depth is kept.
-/

namespace ArenaThreads.Pattern

structure Sequence where
  count : Nat := 0
  deepest : Nat := 0
  last : Option Nat := none
  deriving DecidableEq, Repr

namespace Sequence

def add (depth : Nat) (pieces : Sequence) : Sequence :=
  ⟨pieces.count + 1, max pieces.deepest depth, some depth⟩

def addSettings (pieces : Sequence) : Sequence := { pieces with count := pieces.count + 1, last := none }

def repeatLast? (pieces : Sequence) : Option Sequence :=
  pieces.last.map fun depth =>
    { pieces with deepest := max pieces.deepest (depth + 1), last := some (depth + 1) }

def depth (pieces : Sequence) : Nat := if pieces.count ≤ 1 then pieces.deepest else pieces.deepest + 1

end Sequence

structure Level where
  left : Option Nat := none
  pieces : Sequence := {}
  deriving DecidableEq, Repr

namespace Level

def add (depth : Nat) (level : Level) : Level := { level with pieces := level.pieces.add depth }

def depth (level : Level) : Nat :=
  match level.left with
  | none => level.pieces.depth
  | some left => max left level.pieces.depth + 1

end Level

def admitsMember (mode : Mode) (c : Char) : Bool :=
  if mode.unicode then !mode.anyCase else c.toNat < 128

def admitsSet (mode : Mode) (negated : Bool) : Bool := if mode.unicode then !mode.anyCase else !negated

def setNames : List String :=
  ["alnum", "alpha", "ascii", "blank", "cntrl", "digit", "graph", "lower", "print", "punct", "space",
    "upper", "word", "xdigit"]

def namedSet? : List Char → Option (Bool × List Char)
  | ':' :: rest =>
    let (negated, rest) := match rest with
      | '^' :: rest => (true, rest)
      | rest => (false, rest)
    match rest.dropWhile (· ≠ ':') with
    | ':' :: ']' :: after =>
      if setNames.contains (String.ofList (rest.takeWhile (· ≠ ':'))) then some (negated, after) else none
    | _ => none
  | _ => none

def hyphens (mode : Mode) : Nat → Level → List Char → Level × List Char
  | limit + 1, level, '-' :: rest => hyphens mode limit (level.add 0) (skip mode rest)
  | _, level, text => (level, text)

/-- The beginning of a class, after its bracket. A bracket that closes stands for itself there. -/
def openClass? (mode : Mode) (text : List Char) : Option (Level × List Char) :=
  let start := skip mode text
  let (negated, start) := match start with
    | '^' :: rest => (true, skip mode rest)
    | _ => (false, start)
  let (level, rest) := hyphens mode start.length {} start
  let (level, rest) := match rest with
    | ']' :: after => if level.pieces.count = 0 then (level.add 0, after) else (level, rest)
    | _ => (level, rest)
  if (negated && !mode.unicode) || (level.pieces.count ≠ 0 && !admitsMember mode '-') then none
  else some (level, rest)

/-- A character, a kind of characters or a range. A hyphen before a bracket that closes or before
another hyphen makes no range. -/
def member? (mode : Mode) (text : List Char) : Option (List Char) :=
  match atom? mode text with
  | none => none
  | some (first, rest) =>
    match skip mode rest with
    | '-' :: after =>
      if peek? mode after = some ']' ∨ peek? mode after = some '-' then single first rest
      else match first, atom? mode (skip mode after) with
        | .literal low _, some (.literal high _, rest) =>
          if admitsMember mode low && admitsMember mode high && low.toNat ≤ high.toNat then some rest
          else none
        | _, _ => none
    | _ => single first rest
where
  single : Atom → List Char → Option (List Char)
    | .literal c _, rest => if admitsMember mode c then some rest else none
    | .kind negated, rest => if admits mode (.kind negated) then some rest else none
    | _, _ => none

def classRest? (mode : Mode) : Nat → Level → List Level → List Char → Option (Nat × List Char)
  | 0, _, _, _ => none
  | limit + 1, level, outer, text =>
    match skip mode text with
    | [] => none
    | '[' :: rest =>
      match namedSet? rest with
      | some (negated, after) =>
        if admitsSet mode negated then classRest? mode limit (level.add 0) outer after else none
      | none =>
        (openClass? mode rest).bind fun (inner, after) =>
          classRest? mode limit inner (level :: outer) after
    | ']' :: rest =>
      match outer with
      | [] => some (level.depth + 1, rest)
      | around :: outer => classRest? mode limit (around.add (level.depth + 1)) outer rest
    | '&' :: '&' :: rest | '-' :: '-' :: rest | '~' :: '~' :: rest =>
      classRest? mode limit { left := some level.depth } outer rest
    | text => (member? mode text).bind fun rest => classRest? mode limit (level.add 0) outer rest

def class? (mode : Mode) (text : List Char) : Option (Nat × List Char) :=
  (openClass? mode text).bind fun (level, rest) => classRest? mode (rest.length + 1) level [] rest

end ArenaThreads.Pattern
