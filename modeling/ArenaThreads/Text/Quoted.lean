import ArenaThreads.Text.Invisible
/-! Quoted text: double quotes around it, and a backslash before what would not show as itself. -/

namespace ArenaThreads.Text.Quoted

def hexDigits (code : Nat) : List Char := Nat.toDigits 16 code

def codePoint (c : Char) : List Char :=
  ['\\', 'u', '\x7b'] ++ hexDigits c.toNat ++ ['\x7d']

def escape (c : Char) : List Char :=
  if c = '\x00' then ['\\', '0']
  else if c = '\t' then ['\\', 't']
  else if c = '\n' then ['\\', 'n']
  else if c = '\r' then ['\\', 'r']
  else if c = '"' then ['\\', '"']
  else if c = '\\' then ['\\', '\\']
  else if isInvisible c then codePoint c
  else [c]

def encode (text : List Char) : List Char := '"' :: text.flatMap escape ++ ['"']

end ArenaThreads.Text.Quoted
