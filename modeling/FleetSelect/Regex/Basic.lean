import FleetSelect.Regex.Utf8

namespace FleetSelect

open FleetSelect.Unicode

inductive Look where
  | textStart
  | textEnd
  | lineStart
  | lineEnd
  /-- Lines end at a carriage return, a line feed or both together. -/
  | lineStartCrlf
  | lineEndCrlf
  | wordBoundary (unicode : Bool)
  | noWordBoundary (unicode : Bool)
  | wordStart (unicode : Bool)
  | wordEnd (unicode : Bool)
  | wordStartHalf (unicode : Bool)
  | wordEndHalf (unicode : Bool)
deriving DecidableEq

/-- A compiled expression. The limit on its size is one on its simple form: neighbouring texts are
one text, branches of one character are a set, and what all branches start with stands before
them. -/
inductive Regex where
  | empty
  | text (cs : List Char)
  /-- One of some characters. Where Unicode is off the set counts as a set of bytes. -/
  | set (s : CodeSet) (unicode : Bool)
  | look (l : Look)
  | repetition (min : Nat) (max : Option Nat) (greedy : Bool) (body : Regex)
  | capture (body : Regex)
  | concat (parts : List Regex)
  | alternation (branches : List Regex)

namespace Regex

def addLength (a b : Option Nat) : Option Nat := do
  return (← a) + (← b)

mutual

/-- The least number of bytes of a match, if there can be a match. -/
def minLength : Regex → Option Nat
  | .empty => some 0
  | .text cs => some (textBytes cs).length
  | .set s _ => s.ranges.head?.map fun r => (utf8Bytes r.1).length
  | .look _ => some 0
  | .repetition min _ _ r => (minLength r).map (min * ·)
  | .capture r => minLength r
  | .concat rs => minLengthSum rs
  | .alternation rs => minLengthLeast rs

def minLengthSum : List Regex → Option Nat
  | [] => some 0
  | r :: rs => addLength (minLength r) (minLengthSum rs)

def minLengthLeast : List Regex → Option Nat
  | [] => none
  | [r] => minLength r
  | r :: rs => do return min (← minLength r) (← minLengthLeast rs)

end

mutual

def isEmptyOnly : Regex → Bool
  | .empty => true
  | .text _ => false
  | .set _ _ => false
  | .look _ => true
  | .repetition _ max _ r => max.isSome && isEmptyOnly r
  | .capture r => isEmptyOnly r
  | .concat rs => allEmptyOnly rs
  | .alternation rs => allEmptyOnly rs

def allEmptyOnly : List Regex → Bool
  | [] => true
  | r :: rs => isEmptyOnly r && allEmptyOnly rs

end

mutual

/-- Two expressions are written alike. No two groups are, because each has a number of its own. -/
def isSame : Regex → Regex → Bool
  | .empty, .empty => true
  | .text cs, .text ds => cs == ds
  | .set s u, .set t v => s = t && u == v
  | .look l, .look k => l = k
  | .repetition min max g r, .repetition min' max' g' r' =>
    min == min' && max == max' && g == g' && isSame r r'
  | .concat rs, .concat ss => areSame rs ss
  | .alternation rs, .alternation ss => areSame rs ss
  | _, _ => false

def areSame : List Regex → List Regex → Bool
  | [], [] => true
  | r :: rs, s :: ss => isSame r s && areSame rs ss
  | _, _ => false

end

mutual

def nodeCount : Regex → Nat
  | .repetition _ _ _ r => nodeCount r + 1
  | .capture r => nodeCount r + 1
  | .concat rs => nodeCounts rs + 1
  | .alternation rs => nodeCounts rs + 1
  | _ => 1

def nodeCounts : List Regex → Nat
  | [] => 0
  | r :: rs => nodeCount r + nodeCounts rs

end

def ofSet (unicode : Bool) (s : CodeSet) : Regex :=
  match s.ranges with
  | [] => .set .empty true
  | [(lo, hi)] => if lo = hi then .text [Char.ofNat lo] else .set s unicode
  | _ => .set s unicode

/-- An expression repeated. Repeating what only the empty text matches adds nothing. -/
def repeated (min : Nat) (max : Option Nat) (greedy : Bool) (r : Regex) : Regex :=
  let (min, max) := if isEmptyOnly r then (Nat.min min 1, some ((max.map (Nat.min · 1)).getD 1))
    else (min, max)
  if min = 0 && max = some 0 then .empty
  else if min = 1 && max = some 1 then r
  else .repetition min max greedy r

def parts : Regex → List Regex
  | .empty => []
  | .concat rs => rs
  | r => [r]

def joinText : Regex → List Regex → List Regex
  | .text cs, .text ds :: rs => .text (cs ++ ds) :: rs
  | r, rs => r :: rs

def sequence (rs : List Regex) : Regex :=
  match (rs.flatMap parts).foldr joinText [] with
  | [] => .empty
  | [r] => r
  | rs => .concat rs

def branches : Regex → List Regex
  | .alternation rs => rs
  | r => [r]

def char? : Regex → Option Char
  | .text [c] => some c
  | _ => none

def text? : Regex → Option (List Char)
  | .text cs => some cs
  | _ => none

def set? : Regex → Option CodeSet
  | .set s _ => some s
  | _ => none

def concat? : Regex → Option (List Regex)
  | .concat rs => some rs
  | _ => none

/-- The parts that two concatenations start with alike. -/
def commonStart : List Regex → List Regex → List Regex
  | r :: rs, s :: ss => if isSame r s then r :: commonStart rs ss else []
  | _, _ => []

/-- Any of some expressions. Characters alone, or sets alone, make one set; what all branches start
with comes before a choice of the rests. The number bounds how often a start is taken away. -/
def choiceWithin : Nat → List Regex → Regex
  | 0, rs => .alternation rs
  | n + 1, rs =>
    match rs.flatMap branches with
    | [] => .set .empty true
    | [r] => r
    | rs =>
      match rs.mapM char?, rs.mapM set?, rs.mapM concat? with
      | some cs, _, _ => ofSet true (.unions (cs.map .ofChar))
      | _, some ss, _ => ofSet true (.unions ss)
      | _, _, some (first :: others) =>
        match others.foldl commonStart first with
        | [] => .alternation rs
        | start =>
          let rests := (first :: others).map fun ps => sequence (ps.drop start.length)
          sequence (start ++ [choiceWithin n rests])
      | _, _, _ => .alternation rs

def choice (rs : List Regex) : Regex :=
  choiceWithin (nodeCounts rs + 1) rs

end Regex

end FleetSelect
