import FleetSelect.Limit.Basic
import FleetSelect.Selector.Classify

namespace FleetSelect

open FleetSelect.Text

def isSeparator (c : Char) : Bool :=
  c == ':' || c == ','

/-- The parts of a pattern between its separators, with escapes resolved. A backslash at the very
end stands for nothing. -/
def cutSelectors : List Char → List (List Char)
  | [] => [[]]
  | ['\\'] => [[]]
  | '\\' :: c :: r => (cutSelectors r).modifyHead (c :: ·)
  | c :: r => if isSeparator c then [] :: cutSelectors r else (cutSelectors r).modifyHead (c :: ·)

def splitSelectors (pattern : String) : List String :=
  (cutSelectors pattern.toList).map String.ofList

def Operator.peelList : List Char → Operator × List Char
  | '&' :: r => (.intersect, r)
  | '!' :: r => (.exclude, r)
  | cs => (.union, cs)

def Operator.peel (part : String) : Operator × String :=
  let (op, rest) := peelList (trimList part.toList)
  (op, String.ofList rest)

inductive Part where
  | blank
  /-- The sign of an operator and no text for it. -/
  | bare (text : String)
  | selector (s : Selector)
deriving DecidableEq

namespace Part

def ofString (part : String) : Part :=
  let text := trim part
  if text = "" then .blank
  else
    let (op, rest) := Operator.peel text
    let raw := trim rest
    if raw = "" then .bare text else .selector ⟨raw, .ofText raw, op⟩

def selector? : Part → Option Selector
  | .selector s => some s
  | _ => none

def bare? : Part → Option String
  | .bare text => some text
  | _ => none

end Part

/-- The parts of a pattern without the blanks at its ends; a blank pattern has none. -/
def partsOf (pattern : String) : List Part :=
  let text := trim pattern
  if text = "" then [] else (splitSelectors text).map Part.ofString

/-- The selectors of a pattern, unless it has none. -/
def Limit.ofPattern? (pattern : String) : Option Limit :=
  let l := ofList ((partsOf pattern).filterMap Part.selector?)
  if l.isEmpty then none else some l

end FleetSelect
