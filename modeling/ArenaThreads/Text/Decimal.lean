/-!
Decimal numbers as text: an optional sign, and then a word for infinity or for no number, or digits
with at most one point among them and an optional exponent.
-/

namespace ArenaThreads.Text

def withoutSign : List Char → List Char
  | '+' :: rest | '-' :: rest => rest
  | text => text

def isExponent : List Char → Bool
  | [] => true
  | c :: rest =>
    let digits := withoutSign rest
    (c = 'e' || c = 'E') && digits ≠ [] && digits.all Char.isDigit

def isUnsignedDecimal (text : List Char) : Bool :=
  let whole := text.takeWhile Char.isDigit
  match text.dropWhile Char.isDigit with
  | '.' :: rest =>
    (whole ≠ [] || rest.takeWhile Char.isDigit ≠ []) && isExponent (rest.dropWhile Char.isDigit)
  | rest => whole ≠ [] && isExponent rest

def isDecimal (text : List Char) : Bool :=
  let unsigned := withoutSign text
  ["inf", "infinity", "nan"].contains (String.ofList (unsigned.map Char.toLower)) ||
    isUnsignedDecimal unsigned

end ArenaThreads.Text
