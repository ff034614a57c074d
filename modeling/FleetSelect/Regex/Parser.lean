import FleetSelect.Regex.Bracket
import FleetSelect.Unicode.Addition
import FleetSelect.Unicode.Property

namespace FleetSelect.Regex

open FleetSelect.Unicode

def Flag.ofChar? : Char → Option Flag
  | 'i' => some .caseInsensitive
  | 'm' => some .multiLine
  | 's' => some .dotAll
  | 'U' => some .swapGreed
  | 'u' => some .unicode
  | 'R' => some .crlf
  | 'x' => some .verbose
  | _ => none

/-- Flags up to a colon or a closing parenthesis, which is left in place. Flags after a hyphen are
turned off; no flag and no hyphen may occur twice, and a hyphen may not come last. -/
def readFlags (on : Bool) (done : FlagChanges) : List Char → Except Error (FlagChanges × List Char)
  | [] => .error .invalidFlags
  | '-' :: ':' :: _ => .error .invalidFlags
  | '-' :: ')' :: _ => .error .invalidFlags
  | '-' :: r => if on then readFlags false done r else .error .invalidFlags
  | ':' :: r => .ok (done.reverse, ':' :: r)
  | ')' :: r => .ok (done.reverse, ')' :: r)
  | c :: r =>
    match Flag.ofChar? c with
    | some f =>
      if done.any (·.1 = f) then .error .invalidFlags else readFlags on ((f, on) :: done) r
    | none => .error .invalidFlags

/-- An alphabetic character of the latest version of the standard. -/
def isAlphabetic (c : Char) : Bool :=
  Property.alphabetic.contains c.toNat || Addition.alphabetic.contains c.toNat

/-- A number of the latest version of the standard. -/
def isNumber (c : Char) : Bool :=
  (GeneralCategory.unions ["n"]).contains c.toNat || Addition.numbers.contains c.toNat

def isNameStart (c : Char) : Bool :=
  c == '_' || isAlphabetic c

def isNameRest (c : Char) : Bool :=
  c == '_' || c == '.' || c == '[' || c == ']' || isAlphabetic c || isNumber c

def readGroupName (names : List (List Char)) (cs : List Char) :
    Except Error (List Char × List Char) :=
  match cs.takeWhile (· != '>'), cs.dropWhile (· != '>') with
  | c :: name, _ :: r =>
    if isNameStart c && name.all isNameRest && !names.contains (c :: name) then .ok (c :: name, r)
    else .error .invalidGroupName
  | _, _ => .error .invalidGroupName

inductive Opening where
  | flags (changes : FlagChanges)
  | group (changes : FlagChanges) (captures : Bool) (name : Option (List Char))

def readOpening (verbose : Bool) (names : List (List Char)) (cs : List Char) :
    Except Error (Opening × List Char) :=
  match skip verbose cs with
  | '?' :: '=' :: _ => .error .lookAround
  | '?' :: '!' :: _ => .error .lookAround
  | '?' :: '<' :: '=' :: _ => .error .lookAround
  | '?' :: '<' :: '!' :: _ => .error .lookAround
  | '?' :: 'P' :: '<' :: r => named r
  | '?' :: '<' :: r => named r
  | '?' :: r => do
    match ← readFlags true [] r with
    | ([], ')' :: _) => .error .missingRepetition
    | (changes, ')' :: r) => return (.flags changes, r)
    | (changes, r) => return (.group changes false none, r.drop 1)
  | r => .ok (.group [] true none, r)
where
  named (r : List Char) : Except Error (Opening × List Char) := do
    let (name, r) ← readGroupName names r
    return (.group [] true (some name), r)

/-- A group that is still open, or the whole expression. -/
structure OpenGroup where
  changes : FlagChanges
  captures : Bool
  verbose : Bool
  branches : List (Nested Syntax)
  parts : List (Nested Syntax)

namespace OpenGroup

def branch (g : OpenGroup) : Except Error (Nested Syntax) :=
  match g.parts with
  | [] => .ok ⟨.empty, 0⟩
  | [part] => .ok part
  | parts => bounded (.concatenation (parts.reverse.map (·.value))) (deeper parts)

def body (g : OpenGroup) : Except Error (Nested Syntax) := do
  let last ← g.branch
  match g.branches with
  | [] => return last
  | branches =>
    let all := last :: branches
    bounded (.alternation (all.reverse.map (·.value))) (deeper all)

def close (g : OpenGroup) : Except Error (Nested Syntax) := do
  let b ← g.body
  bounded (.group g.changes g.captures b.value) (b.depth + 1)

def add (g : OpenGroup) (part : Nested Syntax) : OpenGroup :=
  { g with parts := part :: g.parts }

def split (g : OpenGroup) : Except Error OpenGroup := do
  return { g with branches := (← g.branch) :: g.branches, parts := [] }

def repeatLast (g : OpenGroup) (min : Nat) (max : Option Nat) (isLazy : Bool) :
    Except Error OpenGroup :=
  match g.parts with
  | [] => .error .missingRepetition
  | ⟨.flags _, _⟩ :: _ => .error .missingRepetition
  | part :: parts => do
    let part ← bounded (.repetition min max isLazy part.value) (part.depth + 1)
    return { g with parts := part :: parts }

end OpenGroup

/-- The group with the last part repeated by a sign, and the text after it. A question mark right
after the sign changes only which match is preferred. -/
def repeatBySign (g : OpenGroup) (min : Nat) (max : Option Nat) (cs : List Char) :
    Except Error (OpenGroup × List Char) := do
  match cs with
  | '?' :: r => return (← g.repeatLast min max true, r)
  | r => return (← g.repeatLast min max false, r)

def readPart (verbose : Bool) : List Char → Except Error (Syntax × List Char)
  | '\\' :: r => do
    match ← readEscape verbose r with
    | (.literal l, r) => return (.literal l, r)
    | (.set s, r) => return (.set s, r)
    | (.assertion a, r) => return (.assertion a, r)
  | '.' :: r => .ok (.dot, r)
  | '^' :: r => .ok (.assertion .lineStart, r)
  | '$' :: r => .ok (.assertion .lineEnd, r)
  | c :: r => .ok (.literal ⟨c, false⟩, r)
  | [] => .error .unexpectedEnd

/-- Read on until the text ends. Every round takes a character, so `fuel` may be one more than the
length of the text. `names` are the names of the groups so far. -/
def readFrom : Nat → OpenGroup → List OpenGroup → List (List Char) → List Char → Except Error Syntax
  | 0, _, _, _, _ => .error .unexpectedEnd
  | fuel + 1, g, outer, names, cs => do
    match skip g.verbose cs with
    | [] =>
      if outer.isEmpty then return (← g.body).value else .error .unclosedGroup
    | '(' :: r =>
      if depthLimit < outer.length then .error .tooDeep
      else
        match ← readOpening g.verbose names r with
        | (.flags changes, r) =>
          let verbose := (changes.value? .verbose).getD g.verbose
          readFrom fuel { g.add ⟨.flags changes, 0⟩ with verbose := verbose } outer names r
        | (.group changes captures name, r) =>
          let verbose := (changes.value? .verbose).getD g.verbose
          readFrom fuel ⟨changes, captures, verbose, [], []⟩ (g :: outer) (name.toList ++ names) r
    | ')' :: r =>
      match outer with
      | [] => .error .unopenedGroup
      | o :: outer => readFrom fuel (o.add (← g.close)) outer names r
    | '|' :: r => readFrom fuel (← g.split) outer names r
    | '[' :: r =>
      let (s, r) ← readClass g.verbose r
      readFrom fuel (g.add ⟨.set s.value, s.depth⟩) outer names r
    | '?' :: r =>
      let (g, r) ← repeatBySign g 0 (some 1) r
      readFrom fuel g outer names r
    | '*' :: r =>
      let (g, r) ← repeatBySign g 0 none r
      readFrom fuel g outer names r
    | '+' :: r =>
      let (g, r) ← repeatBySign g 1 none r
      readFrom fuel g outer names r
    | '{' :: r =>
      let (bounds, r) ← readBounds g.verbose r
      readFrom fuel (← g.repeatLast bounds.min bounds.max bounds.isLazy) outer names r
    | cs =>
      let (part, r) ← readPart g.verbose cs
      readFrom fuel (g.add ⟨part, 0⟩) outer names r

def Syntax.ofList (cs : List Char) : Except Error Syntax :=
  readFrom (cs.length + 1) ⟨[], true, false, [], []⟩ [] [] cs

end FleetSelect.Regex
