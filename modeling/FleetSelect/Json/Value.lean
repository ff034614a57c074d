namespace FleetSelect.Json

def isDigits (cs : List Char) : Bool :=
  !cs.isEmpty && cs.all Char.isDigit

def isExponent : List Char → Bool
  | [] => true
  | e :: cs =>
    (e == 'e' || e == 'E') &&
      match cs with
      | '+' :: ds => isDigits ds
      | '-' :: ds => isDigits ds
      | ds => isDigits ds

def isFraction : List Char → Bool
  | '.' :: cs => isDigits (cs.takeWhile Char.isDigit) && isExponent (cs.dropWhile Char.isDigit)
  | cs => isExponent cs

/-- Digits of which only a lone zero starts with zero, then a fraction and an exponent. -/
def isUnsigned : List Char → Bool
  | '0' :: cs => isFraction cs
  | cs => isDigits (cs.takeWhile Char.isDigit) && isFraction (cs.dropWhile Char.isDigit)

def isNumeral : List Char → Bool
  | '-' :: cs => isUnsigned cs
  | cs => isUnsigned cs

structure Numeral where
  literal : List Char
  valid : isNumeral literal = true

/-- A JSON value as a document writes it, with repeated names and the literals of numbers. A text is
`none` if its escapes leave half a surrogate pair, which no text can hold. -/
inductive Value where
  | null
  | bool (b : Bool)
  | number (n : Numeral)
  | text (s : Option String)
  | array (elements : List Value)
  | object (members : List (Option String × Value))

abbrev Member := Option String × Value

namespace Value

def ofString (s : String) : Value :=
  .text (some s)

def ofStrings (ss : List String) : Value :=
  .array (ss.map ofString)

def record (members : List (String × Value)) : Value :=
  .object (members.map fun m => (some m.1, m.2))

end Value

end FleetSelect.Json
