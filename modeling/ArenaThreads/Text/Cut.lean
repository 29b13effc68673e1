import ArenaThreads.Text.Quoted
/-! Cutting text at byte positions, none of which may fall inside a character. -/

namespace ArenaThreads.Text

def byteLength : List Char → Nat
  | [] => 0
  | c :: rest => c.utf8Size + byteLength rest

def dropBytes? : Nat → List Char → Option (List Char)
  | 0, text => some text
  | _ + 1, [] => none
  | count + 1, c :: rest =>
    if c.utf8Size ≤ count + 1 then dropBytes? (count + 1 - c.utf8Size) rest else none

def takeBytes? : Nat → List Char → Option (List Char)
  | 0, _ => some []
  | _ + 1, [] => none
  | count + 1, c :: rest =>
    if c.utf8Size ≤ count + 1 then (takeBytes? (count + 1 - c.utf8Size) rest).map (c :: ·) else none

/-- A cut that begins or ends inside a character. -/
structure BrokenCut where
  atStart : Bool
  position : Nat
  text : List Char
  deriving DecidableEq, Repr

def cut (first last : Nat) (text : List Char) : Except BrokenCut (List Char) :=
  match dropBytes? first text with
  | none => .error ⟨true, first, text⟩
  | some rest =>
    match takeBytes? (last - first) rest with
    | none => .error ⟨false, last, text⟩
    | some piece => .ok piece

def cutFrom (first : Nat) (text : List Char) : Except BrokenCut (List Char) :=
  match dropBytes? first text with
  | none => .error ⟨true, first, text⟩
  | some rest => .ok rest

def around? (position : Nat) : Nat → List Char → Option (Char × Nat)
  | _, [] => none
  | place, c :: rest =>
    if position < place + c.utf8Size then some (c, place)
    else around? position (place + c.utf8Size) rest

namespace BrokenCut

def message (broken : BrokenCut) : String :=
  let side := if broken.atStart then "start" else "end"
  let inside := match around? broken.position 0 broken.text with
    | none => ""
    | some (c, place) => "'" ++ String.ofList (Quoted.escape c) ++ "' (bytes " ++ toString place ++
        ".." ++ toString (place + c.utf8Size) ++ " of string)"
  side ++ " byte index " ++ toString broken.position ++
    " is not a char boundary; it is inside " ++ inside

end BrokenCut

theorem byteLength_append (first second : List Char) :
    byteLength (first ++ second) = byteLength first + byteLength second := by
  induction first with
  | nil => simp [byteLength]
  | cons c rest ih => simp [byteLength, ih, Nat.add_assoc]

theorem takeBytes?_byteLength (text rest : List Char) :
    takeBytes? (byteLength text) (text ++ rest) = some text := by
  induction text with
  | nil => simp [byteLength, takeBytes?]
  | cons c tail ih =>
    obtain ⟨count, whole⟩ : ∃ count, c.utf8Size + byteLength tail = count + 1 :=
      ⟨c.utf8Size + byteLength tail - 1, by have := c.utf8Size_pos; omega⟩
    have left : count + 1 - c.utf8Size = byteLength tail := by omega
    rw [byteLength, whole, List.cons_append, takeBytes?, if_pos (by omega), left, ih]
    rfl

theorem dropBytes?_byteLength (text rest : List Char) :
    dropBytes? (byteLength text) (text ++ rest) = some rest := by
  induction text with
  | nil => simp [byteLength, dropBytes?]
  | cons c tail ih =>
    obtain ⟨count, whole⟩ : ∃ count, c.utf8Size + byteLength tail = count + 1 :=
      ⟨c.utf8Size + byteLength tail - 1, by have := c.utf8Size_pos; omega⟩
    have left : count + 1 - c.utf8Size = byteLength tail := by omega
    rw [byteLength, whole, List.cons_append, dropBytes?, if_pos (by omega), left, ih]

end ArenaThreads.Text
