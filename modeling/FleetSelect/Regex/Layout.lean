import FleetSelect.Regex.Basic
import FleetSelect.Regex.Memory

namespace FleetSelect.Regex

open FleetSelect.Unicode

inductive Direction where
  | forward
  | backward
deriving DecidableEq

/-- The plan of a machine. -/
inductive Layout where
  | fixed (m : Memory)
  | forms (fs : List ByteRanges)
  | join (first second : Layout)
  | copies (n : Nat) (part : Layout)

namespace Layout

def states (n heap : Nat) : Layout :=
  .fixed ⟨n, heap⟩

def append : Layout → Layout → Layout
  | .fixed m, .fixed n => .fixed (m.add n)
  | l, k => .join l k

def appendAll (ls : List Layout) : Layout :=
  ls.foldr append (states 0 0)

def times (n : Nat) : Layout → Layout
  | .fixed m => .fixed (m.times n)
  | l => .copies n l

def fork : Layout := states 1 8

def skip : Layout := states 1 0

/-- Parts that stand one after another; no part at all takes a state too. -/
def power (n : Nat) (l : Layout) : Layout :=
  if n = 0 then skip else l.times n

/-- A repetition of a part whose least length may be known. -/
def repetition (body : Layout) (least : Option Nat) (min : Nat) : Option Nat → Layout
  | some max =>
    if min = 0 && max = 1 then appendAll [fork, body, skip]
    else if min = max then power min body
    else appendAll [power min body, skip, (fork.append body).times (max - min)]
  | none =>
    if min = 0 then
      if least.any (0 < ·) then appendAll [fork, body] else appendAll [body, fork, fork, skip]
    else (body.times min).append fork

/-- A set of characters. Those of ASCII are the ways on from one state. -/
def ofSet (s : CodeSet) : Layout :=
  if s.isAscii then states 2 (8 * s.ranges.length) else .forms (byteRanges s)

def ofWords (d : Direction) (words : List (List Char)) : Layout :=
  let words := words.map fun cs =>
    if d = .forward then textBytes cs else (textBytes cs).reverse
  let longest := (words.map (·.length)).foldl max 0
  skip.append (.fixed (wordsMemory (longest + 1) words))

def choice : List Layout → Layout
  | first :: second :: rest =>
    appendAll (first :: second :: states 2 (4 * (rest.length + 2)) :: rest)
  | ls => appendAll ls

end Layout

mutual

def layout (d : Direction) : Regex → Layout
  | .empty => .skip
  | .text cs => .states (textBytes cs).length 0
  | .set s _ => .ofSet s
  | .look _ => .skip
  | .repetition min max _ r => .repetition (layout d r) (minLength r) min max
  | .capture r =>
    if d = .forward then .appendAll [.skip, layout d r, .skip] else layout d r
  | .concat rs =>
    .appendAll (if d = .forward then layouts d rs else (layouts d rs).reverse)
  | .alternation rs =>
    match rs.mapM text? with
    | some words => .ofWords d words
    | none => .choice (layouts d rs)

def layouts (d : Direction) : List Regex → List Layout
  | [] => []
  | r :: rs => layout d r :: layouts d rs

end

mutual

/-- A match can only start, or for a machine that reads backward only end, at that end of the
text. -/
def isAnchored (d : Direction) : Regex → Bool
  | .look l => l = if d = .forward then .textStart else .textEnd
  | .repetition min _ _ r => 0 < min && isAnchored d r
  | .capture r => isAnchored d r
  | .concat rs => if d = .forward then isAnchoredFirst d rs else isAnchoredLast d rs
  | .alternation rs => areAnchored d rs
  | _ => false

def isAnchoredFirst (d : Direction) : List Regex → Bool
  | [] => false
  | r :: rs => isAnchored d r || (isEmptyOnly r && isAnchoredFirst d rs)

def isAnchoredLast (d : Direction) : List Regex → Bool
  | [] => false
  | r :: rs => isAnchoredLast d rs || (isAnchored d r && allEmptyOnly rs)

def areAnchored (d : Direction) : List Regex → Bool
  | [] => true
  | r :: rs => isAnchored d r && areAnchored d rs

end

/-- The layout of the machine that searches for an expression: what passes over the text before a
match, unless matches are anchored, then the expression as a group, and the end. -/
def machine (d : Direction) (r : Regex) : Layout :=
  .appendAll [if isAnchored d r then .skip else .states 3 16, layout d (.capture r), .skip]

end FleetSelect.Regex
