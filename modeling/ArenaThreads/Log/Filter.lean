import ArenaThreads.Log.Backend
import ArenaThreads.Log.Pattern
import ArenaThreads.Size
import ArenaThreads.Text.Alphanumeric
import ArenaThreads.Text.Cut
/-! Which events are written: directives that give targets a least level. -/

namespace ArenaThreads

abbrev Threshold := Option Level

namespace Threshold

def admits (threshold : Threshold) (level : Level) : Bool :=
  threshold.any fun least => least.severity ≤ level.severity

def parse? (text : List Char) : Option Threshold :=
  match Size.number? text with
  | some 0 => some none
  | some 1 => some (some .error)
  | some 2 => some (some .warn)
  | some 3 => some (some .info)
  | some 4 => some (some .debug)
  | some 5 => some (some .trace)
  | _ =>
    let lower := String.ofList (text.map Char.toLower)
    if lower = "off" then some none
    else if lower = "error" then some (some .error)
    else if lower = "warn" then some (some .warn)
    else if lower = "info" then some (some .info)
    else if lower = "debug" then some (some .debug)
    else if lower = "trace" then some (some .trace)
    else none

end Threshold

/-- A directive holds for the targets that begin with its own and for events with all its fields. One
that names a span or the value of a field is about spans, and no event is in one. -/
structure Directive where
  target : String := ""
  fields : List String := []
  spans : Bool := false
  threshold : Threshold := some .trace
  deriving DecidableEq, Repr

namespace Directive

inductive Reading
  | start
  | word
  | span (first : Nat)
  | field (first : Nat)
  | fields
  | closed
  | level (first : Nat)
  deriving DecidableEq, Repr

def cut (first last : Nat) (text : List Char) : Except FilterTrouble (List Char) :=
  (Text.cut first last text).mapError .broken

def cutFrom (first : Nat) (text : List Char) : Except FilterTrouble (List Char) :=
  (Text.cutFrom first text).mapError .broken

def beginsWord (c : Char) : Bool := Text.isAlphanumeric c || c ∈ ['-', ':', '_']

def fieldValue? (field : List Char) : Option (List Char) :=
  match field.dropWhile (· ≠ '=') with
  | [] => none
  | _ :: rest => some (rest.takeWhile (· ≠ '='))

def withField (field : List Char) (directive : Directive) : Except FilterTrouble Directive :=
  if (fieldValue? field).all Pattern.isValue then
    .ok { directive with
      fields := directive.fields ++ [String.ofList (field.takeWhile (· ≠ '='))]
      spans := directive.spans || (fieldValue? field).isSome }
  else .error .malformed

def step (text : List Char) (position : Nat) (c : Char) (directive : Directive) :
    Reading → Except FilterTrouble (Reading × Directive)
  | .start =>
    if c = '[' then .ok (.span (position + 1), directive)
    else if beginsWord c then .ok (.word, directive)
    else .error .malformed
  | .word => do
    if c ≠ '=' ∧ c ≠ '[' then return (.word, directive)
    let target ← cut 0 position text
    let named := { directive with target := String.ofList target }
    return (if c = '=' then .level (position + 1) else .span (position + 1), named)
  | .span first => do
    if c ≠ ']' ∧ c ≠ '\x7b' then return (.span first, directive)
    let name ← cut first position text
    if c = ']' then return (.closed, { directive with spans := true })
    return (.field (position + 1), { directive with spans := name ≠ [] })
  | .field first => do
    if c ≠ '\x7d' then return (.field first, directive)
    let field ← cut first position text
    if field = [] then throw .malformed
    return (.fields, ← directive.withField field)
  | .fields => if c = ']' then .ok (.closed, directive) else .error .malformed
  | .closed => if c = '=' then .ok (.level (position + 1), directive) else .error .malformed
  | .level first => .ok (.level first, directive)

def readAll (text : List Char) : Nat → List Char → Reading → Directive →
    Except FilterTrouble (Reading × Directive)
  | _, [], reading, directive => .ok (reading, directive)
  | position, c :: rest, reading, directive => do
    let (next, changed) ← step text position c directive reading
    readAll text (position + c.utf8Size) rest next changed

/-- A word alone is a level for every target, or a target all of whose events pass. Without a level
after the sign everything passes. -/
def finish (text : List Char) (directive : Directive) : Reading → Except FilterTrouble Directive
  | .word =>
    match Threshold.parse? text with
    | some threshold => .ok { threshold := threshold }
    | none => .ok { target := String.ofList text }
  | .level first => do
    let level ← cutFrom first text
    if level = [] then return directive
    match Threshold.parse? level with
    | some threshold => return { directive with threshold := threshold }
    | none => throw .malformed
  | .closed => .ok directive
  | _ => .error .malformed

/-- Reads one directive. Blanks around it are passed over, but positions count from its first
character while the cuts are made in the text with its blanks. -/
def parse (text : List Char) : Except FilterTrouble Directive := do
  let (reading, directive) ← readAll text 0 (Text.trim text) .start {}
  finish text directive reading

def covers (directive : Directive) (event : Event) : Bool :=
  !directive.spans && directive.target.toList.isPrefixOf event.target.toList &&
    directive.fields.all event.fieldNames.contains

def yieldsTo (first second : Directive) : Bool :=
  first.target.utf8ByteSize < second.target.utf8ByteSize ||
    (first.target.utf8ByteSize = second.target.utf8ByteSize &&
      (first.fields.length < second.fields.length ||
        (first.fields.length = second.fields.length &&
          @decide _ (@List.decidableLE String _ _ String.decidableLT first.fields second.fields))))

end Directive

abbrev LogFilter := List Directive

namespace LogFilter

def parts (text : String) : List String := (text.splitToList (· = ',')).filter (· ≠ "")

def errors : LogFilter := [{ threshold := some .error }]

def parse (text : String) : Except FilterTrouble LogFilter :=
  if parts text = [] then .ok errors
  else (parts text).mapM fun part => Directive.parse part.toList

def parseLossy (text : String) : LogFilter :=
  let read := (parts text).filterMap fun part => (Directive.parse part.toList).toOption
  if read = [] then errors else read

def deciding (filter : LogFilter) (event : Event) : Option Directive :=
  (filter.filter (·.covers event)).foldl (fun best directive =>
    match best with
    | none => some directive
    | some chosen => if chosen.yieldsTo directive then some directive else best) none

def admits (filter : LogFilter) (event : Event) : Bool :=
  (filter.deciding event).any fun directive => directive.threshold.admits event.level

end LogFilter

end ArenaThreads
