import ArenaThreads.Text.Blank
/-! Sizes written as text: decimal bytes, or with a suffix in units of 1024 or 1048576 bytes. -/

namespace ArenaThreads

/-- Sizes and addresses are below this bound. -/
def wordLimit : Nat := 0x1_0000_0000_0000_0000

namespace Size

def digit? (c : Char) : Option Nat :=
  if '0' ≤ c ∧ c ≤ '9' then some (c.toNat - '0'.toNat) else none

def digits? (read : Nat) : List Char → Option Nat
  | [] => some read
  | c :: rest => (digit? c).bind fun value => digits? (10 * read + value) rest

def number? (text : List Char) : Option Nat :=
  let digits := match text with
    | '+' :: rest => rest
    | _ => text
  if digits = [] then none
  else (digits? 0 digits).filter (· < wordLimit)

def unit? (text : List Char) : Option (List Char × Nat) :=
  text.getLast?.map fun last =>
    if last = 'k' ∨ last = 'K' then (text.dropLast, 1024)
    else if last = 'm' ∨ last = 'M' then (text.dropLast, 1024 * 1024)
    else (text, 1)

def parse? (text : List Char) : Option Nat := do
  let (digits, unit) ← unit? (Text.trim text)
  let count ← number? (Text.trim digits)
  if 0 < count * unit ∧ count * unit < wordLimit then some (count * unit) else none

end Size

end ArenaThreads
