import FleetSelect.Regex.Basic
import FleetSelect.Unicode.Property

namespace FleetSelect.Regex

open FleetSelect.Unicode

def isWordChar (unicode : Bool) (c : Char) : Bool :=
  if unicode then Property.word.contains c.toNat
  else c.isAlphanum || c == '_'

def isWord (unicode : Bool) : Option Char → Bool
  | some c => isWordChar unicode c
  | none => false

/-- Whether a condition holds between two characters; at either end of the text one is missing. -/
def holds (before after : Option Char) : Look → Bool
  | .textStart => before.isNone
  | .textEnd => after.isNone
  | .lineStart => before.all (· == '\n')
  | .lineEnd => after.all (· == '\n')
  | .lineStartCrlf => before.all fun c => c == '\n' || (c == '\r' && after != some '\n')
  | .lineEndCrlf => after.all fun c => c == '\r' || (c == '\n' && before != some '\r')
  | .wordBoundary u => isWord u before != isWord u after
  | .noWordBoundary u => isWord u before == isWord u after
  | .wordStart u => !isWord u before && isWord u after
  | .wordEnd u => isWord u before && !isWord u after
  | .wordStartHalf u => !isWord u before
  | .wordEndHalf u => !isWord u after

/-- The set of the places whose answers are true; the first answer is that of the first place. -/
def placesOf : List Bool → Nat
  | [] => 0
  | b :: bs => 2 * placesOf bs + b.toNat

def placesBefore (p : Char → Bool) (text : List Char) : Nat :=
  placesOf (text.map p)

def answers (l : Look) (before : Option Char) : List Char → List Bool
  | [] => [holds before none l]
  | c :: cs => holds before (some c) l :: answers l (some c) cs

/-- A step repeated a number of times; it ends early when nothing changes any more. -/
def iterate (step : Nat → Nat) : Nat → Nat → Nat
  | 0, m => m
  | n + 1, m =>
    let m' := step m
    if m' = m then m else iterate step n m'

/-- All places that up to a number of steps lead to. `fresh` are the places reached last and `seen`
all places reached. -/
def closure (step : Nat → Nat) : Nat → Nat → Nat → Nat
  | 0, _, seen => seen
  | n + 1, fresh, seen =>
    let seen' := seen ||| step fresh
    if seen' = seen then seen else closure step n (seen' ^^^ seen) seen'

def advanceText (text : List Char) : List Char → Nat → Nat
  | [], m => m
  | c :: cs, m =>
    if m = 0 then 0 else advanceText text cs ((m &&& placesBefore (· == c) text) <<< 1)

mutual

/-- The places at which an expression may end if it starts at one of the given places. -/
def advance (text : List Char) : Regex → Nat → Nat
  | .empty, m => m
  | .text cs, m => advanceText text cs m
  | .set s _, m => (m &&& placesBefore (fun c => s.contains c.toNat) text) <<< 1
  | .look l, m => m &&& placesOf (answers l none text)
  | .repetition min max _ r, m =>
    let first := iterate (advance text r) min m
    match max with
    | some max => closure (advance text r) (max - min) first first
    | none => closure (advance text r) (text.length + 1) first first
  | .capture r, m => advance text r m
  | .concat rs, m => advanceAll text rs m
  | .alternation rs, m => advanceAny text rs m

def advanceAll (text : List Char) : List Regex → Nat → Nat
  | [], m => m
  | r :: rs, m => if m = 0 then 0 else advanceAll text rs (advance text r m)

def advanceAny (text : List Char) : List Regex → Nat → Nat
  | [], _ => 0
  | r :: rs, m => advance text r m ||| advanceAny text rs m

end

def isMatch (r : Regex) (text : List Char) : Bool :=
  advance text r ((1 <<< (text.length + 1)) - 1) != 0

mutual

/-- An equivalent expression without groups in which no unbounded repetition repeats another one or
an optional part. -/
def flatten : Regex → Regex
  | .repetition min max g r => flattenRepetition min max g (flatten r)
  | .capture r => flatten r
  | .concat rs => .concat (flattenList rs)
  | .alternation rs => .alternation (flattenList rs)
  | r => r

def flattenList : List Regex → List Regex
  | [] => []
  | r :: rs => flatten r :: flattenList rs

def flattenRepetition (min : Nat) (max : Option Nat) (g : Bool) : Regex → Regex
  | .repetition 0 none h r => if max = none && min ≤ 1 then .repetition 0 none g r
    else .repetition min max g (.repetition 0 none h r)
  | .repetition 1 none h r => if max = none && min ≤ 1 then .repetition min none g r
    else .repetition min max g (.repetition 1 none h r)
  | .repetition 0 (some 1) h r => if max = none && min ≤ 1 then .repetition 0 none g r
    else .repetition min max g (.repetition 0 (some 1) h r)
  | r => .repetition min max g r

end

end FleetSelect.Regex
