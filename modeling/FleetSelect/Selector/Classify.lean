import FleetSelect.Selector.Address
import FleetSelect.Selector.Basic
import FleetSelect.Text.Blank
import FleetSelect.Unicode.DecimalDigit
import FleetSelect.Unicode.Letter

namespace FleetSelect

open FleetSelect.Text FleetSelect.Unicode

def isIdentifierStart (c : Char) : Bool :=
  isLetter c || c == '_'

def isIdentifierRest (c : Char) : Bool :=
  isLetter c || isDecimalDigit c || c == '_' || c == '-'

/-- The shape of a plain name: a letter or `_`, then letters, decimal digits, `_` and `-`. -/
def isIdentifier : List Char → Bool
  | [] => false
  | c :: r => isIdentifierStart c && r.all isIdentifierRest

namespace Kind

/-- The kind of a text without blanks at its ends. The first rule that applies decides. -/
def ofTrimmed : List Char → Kind
  | [] => .unknown
  | '@' :: _ :: _ => .file
  | '~' :: _ :: _ => .regex
  | cs =>
    if Address.isAddress cs then .address
    else if cs.contains '[' && cs.contains ']' then .hostPattern
    else if cs.contains '*' || cs.contains '?' then .hostPattern
    else if cs.contains '.' then .host
    else if cs.any isDecimalDigit then .host
    else if isIdentifier cs then .group
    else .unknown

def ofText (s : String) : Kind :=
  ofTrimmed (trimList s.toList)

end Kind

end FleetSelect
