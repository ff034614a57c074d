import FleetSelect.Regex.Lexical

namespace FleetSelect.Regex

def depthLimit : Nat := 250

structure Nested (α : Type) where
  value : α
  depth : Nat

def deeper {α : Type} (xs : List (Nested α)) : Nat :=
  (xs.map (·.depth)).foldl max 0 + 1

/-- A value that is not nested too deeply. -/
def bounded {α : Type} (value : α) (depth : Nat) : Except Error (Nested α) :=
  if depth ≤ depthLimit then .ok ⟨value, depth⟩ else .error .tooDeep

def NamedClass.ofName? : String → Option NamedClass
  | "alnum" => some .alnum
  | "alpha" => some .alpha
  | "ascii" => some .ascii
  | "blank" => some .blank
  | "cntrl" => some .cntrl
  | "digit" => some .digit
  | "graph" => some .graph
  | "lower" => some .lower
  | "print" => some .print
  | "punct" => some .punct
  | "space" => some .space
  | "upper" => some .upper
  | "word" => some .word
  | "xdigit" => some .xdigit
  | _ => none

def readNamed? (cs : List Char) : Option (ClassSet × List Char) :=
  match cs with
  | ':' :: '^' :: r => named true r
  | ':' :: r => named false r
  | _ => none
where
  named (negated : Bool) (cs : List Char) : Option (ClassSet × List Char) :=
    match cs.dropWhile (· != ':') with
    | ':' :: ']' :: r =>
      (NamedClass.ofName? (String.ofList (cs.takeWhile (· != ':')))).map fun n =>
        (.named n negated, r)
    | _ => none

structure OpenClass where
  negated : Bool
  /-- What stands left of the last operation. -/
  left : Option (SetOperation × Nested ClassSet)
  items : List (Nested ClassSet)

namespace OpenClass

def itemSet (o : OpenClass) : Except Error (Nested ClassSet) :=
  match o.items with
  | [] => .ok ⟨.empty, 0⟩
  | [item] => .ok item
  | items => bounded (.union (items.reverse.map (·.value))) (deeper items)

def set (o : OpenClass) : Except Error (Nested ClassSet) := do
  let items ← o.itemSet
  match o.left with
  | none => return items
  | some (op, left) => bounded (.operation op left.value items.value) (deeper [left, items])

def add (o : OpenClass) (item : Nested ClassSet) : OpenClass :=
  { o with items := item :: o.items }

def operate (o : OpenClass) (op : SetOperation) : Except Error OpenClass := do
  return { o with left := some (op, ← o.set), items := [] }

def close (o : OpenClass) : Except Error (Nested ClassSet) := do
  let s ← o.set
  bounded (.bracketed s.value o.negated) (s.depth + 1)

end OpenClass

/-- The start of a class, from the text after its bracket. Hyphens at the start, or else a closing
bracket, stand for themselves. -/
def openClass (verbose : Bool) (cs : List Char) : Except Error (OpenClass × List Char) :=
  let (negated, cs) := match skip verbose cs with
    | '^' :: r => (true, skip verbose r)
    | r => (false, r)
  let (hyphens, r) := takeRun verbose (· == '-') false cs
  let items := hyphens.map fun c => ⟨.literal ⟨c, false⟩, 0⟩
  match items, r with
  | _, [] => .error .unclosedClass
  | [], ']' :: r => .ok (⟨negated, none, [⟨.literal ⟨']', false⟩, 0⟩]⟩, r)
  | items, r => .ok (⟨negated, none, items⟩, r)

def readItem (verbose : Bool) : List Char → Except Error (Escape × List Char)
  | [] => .error .unclosedClass
  | '\\' :: r => readEscape verbose r
  | c :: r => .ok (.literal ⟨c, false⟩, r)

def readRange (verbose : Bool) (cs : List Char) : Except Error (ClassSet × List Char) := do
  let (first, r) ← readItem verbose cs
  match skip verbose r with
  | [] => .error .unclosedClass
  | '-' :: r' =>
    if [some ']', some '-'].contains (peekPast verbose r') then single first ('-' :: r')
    else do
      let (last, r) ← readItem verbose (skip verbose r')
      match first, last with
      | .literal a, .literal b =>
        if a.char ≤ b.char then return (.range a b, r) else .error .invalidClassRange
      | _, _ => .error .invalidClassRange
  | r => single first r
where
  single (e : Escape) (r : List Char) : Except Error (ClassSet × List Char) :=
    match e with
    | .literal l => .ok (.literal l, r)
    | .set s => .ok (s, r)
    | .assertion _ => .error .invalidClassEscape

/-- Read on in a class until its outermost bracket closes. Every round takes a character, so `fuel`
may be the length of the text. -/
def readClassFrom (verbose : Bool) :
    Nat → OpenClass → List OpenClass → List Char → Except Error (Nested ClassSet × List Char)
  | 0, _, _, _ => .error .unclosedClass
  | fuel + 1, o, outer, cs => do
    match skip verbose cs with
    | [] => .error .unclosedClass
    | '[' :: r =>
      match readNamed? r with
      | some (s, r) => readClassFrom verbose fuel (o.add ⟨s, 0⟩) outer r
      | none =>
        if depthLimit < outer.length then .error .tooDeep
        else
          let (inner, r) ← openClass verbose r
          readClassFrom verbose fuel inner (o :: outer) r
    | ']' :: r =>
      let s ← o.close
      match outer with
      | [] => return (s, r)
      | o :: outer => readClassFrom verbose fuel (o.add s) outer r
    | '&' :: '&' :: r => readClassFrom verbose fuel (← o.operate .inter) outer r
    | '-' :: '-' :: r => readClassFrom verbose fuel (← o.operate .diff) outer r
    | '~' :: '~' :: r => readClassFrom verbose fuel (← o.operate .symmDiff) outer r
    | cs =>
      let (s, r) ← readRange verbose cs
      readClassFrom verbose fuel (o.add ⟨s, 0⟩) outer r

def readClass (verbose : Bool) (cs : List Char) : Except Error (Nested ClassSet × List Char) := do
  let (o, r) ← openClass verbose cs
  readClassFrom verbose (r.length + 1) o [] r

end FleetSelect.Regex
