import FleetSelect.Regex.Error
import FleetSelect.Regex.Syntax
import FleetSelect.Text.Blank
import FleetSelect.Text.Digits

namespace FleetSelect.Regex

open FleetSelect.Text

/-- The longest run of characters with a property and the text after it. If `verbose` is set, white
space and comments before and inside the run are left out; `comment` says that one is open. -/
def takeRun (verbose : Bool) (p : Char → Bool) : Bool → List Char → List Char × List Char
  | _, [] => ([], [])
  | true, c :: r => takeRun verbose p (c != '\n') r
  | false, c :: r =>
    if verbose && c == '#' then takeRun verbose p true r
    else if verbose && isBlank c then takeRun verbose p false r
    else if p c then
      let (run, rest) := takeRun verbose p false r
      (c :: run, rest)
    else ([], c :: r)

def skip (verbose : Bool) (cs : List Char) : List Char :=
  (takeRun verbose (fun _ => false) false cs).2

/-- The next character after white space. In verbose mode one `#` counts as white space too. -/
def peekPast (verbose : Bool) (cs : List Char) : Option Char :=
  if !verbose then cs.head?
  else
    match cs.dropWhile isBlank with
    | '#' :: r => (r.dropWhile isBlank).head?.or cs.head?
    | c :: _ => some c
    | [] => cs.head?

def maxCount : Nat := 0xFFFFFFFF

def readCount (verbose : Bool) (cs : List Char) : Except Error (Nat × List Char) :=
  let (ds, r) := takeRun verbose Char.isDigit false (cs.dropWhile isBlank)
  if ds.isEmpty || maxCount < decimalNumber ds then .error .invalidCount
  else .ok (decimalNumber ds, r.dropWhile isBlank)

/-- How often something is repeated; without a greatest number there is no end to it. -/
structure Bounds where
  min : Nat
  max : Option Nat
  isLazy : Bool

def readBounds (verbose : Bool) (cs : List Char) : Except Error (Bounds × List Char) := do
  let (min, r) ← readCount verbose (skip verbose cs)
  let (max, r) ← match r with
    | ',' :: r =>
      match skip verbose r with
      | '}' :: r => pure (none, '}' :: r)
      | r => do
        let (max, r) ← readCount verbose r
        pure (some max, r)
    | r => pure (some min, r)
  match r with
  | '}' :: r =>
    if max.any (· < min) then .error .invalidCount
    else match skip verbose r with
      | '?' :: r => return (⟨min, max, true⟩, r)
      | r => return (⟨min, max, false⟩, r)
  | _ => .error .invalidCount

inductive Escape where
  | literal (l : Literal)
  | set (s : ClassSet)
  | assertion (a : Assertion)

def charOfCode? (n : Nat) : Option Char :=
  if h : n.isValidChar then some (Char.ofNatAux n h) else none

def readHexDigits (verbose : Bool) : Nat → List Char → Except Error (List Char × List Char)
  | 0, cs => .ok ([], cs)
  | n + 1, c :: r =>
    if isHexDigit c then do
      let (ds, r) ← readHexDigits verbose n (skip verbose r)
      return (c :: ds, r)
    else .error .invalidHexadecimal
  | _ + 1, [] => .error .unexpectedEnd

/-- A character given by its code, which has `width` digits or stands in braces. -/
def readCode (verbose : Bool) (width : Nat) (cs : List Char) :
    Except Error (Literal × List Char) := do
  let cs := skip verbose cs
  let (ds, r) ← match cs with
    | '{' :: r =>
      match takeRun verbose (· != '}') false r with
      | (ds, _ :: r) =>
        if ds.isEmpty || !ds.all isHexDigit then .error .invalidHexadecimal else pure (ds, r)
      | _ => .error .unexpectedEnd
    | _ => readHexDigits verbose width cs
  match charOfCode? (hexNumber ds) with
  | some c => return (⟨c, cs.head? != some '{' && width == 2⟩, r)
  | none => .error .invalidHexadecimal

def cutAt? (mark : String) (t : String) : Option (String × String) :=
  match t.splitOn mark with
  | before :: r :: rs => some (before, mark.intercalate (r :: rs))
  | _ => none

/-- The question that stands between braces, and whether `!=` asks for the opposite. -/
def Query.ofText (t : String) : Query × Bool :=
  match cutAt? "!=" t, (cutAt? ":" t).or (cutAt? "=" t) with
  | some (before, after), _ => (.value before after, true)
  | none, some (before, after) => (.value before after, false)
  | none, none => (.name t, false)

def readProperty (verbose negated : Bool) (cs : List Char) :
    Except Error (ClassSet × List Char) :=
  match skip verbose cs with
  | [] => .error .unexpectedEnd
  | '{' :: r =>
    match takeRun verbose (· != '}') false r with
    | (text, _ :: r) =>
      let (q, opposite) := Query.ofText (String.ofList text)
      .ok (.property q (negated != opposite), r)
    | _ => .error .unexpectedEnd
  | '\\' :: _ => .error .unknownProperty
  | c :: r => .ok (.property (.name (String.ofList [c])) negated, r)

/-- A word boundary, from the text after its letter. A name in braces selects a kind of boundary;
braces with anything but a name belong to a repetition. -/
def readBoundary (verbose : Bool) (cs : List Char) : Except Error (Assertion × List Char) :=
  match cs with
  | '{' :: r =>
    match takeRun verbose (fun c => c.isAlpha || c == '-') false r with
    | (_, []) => .error .unexpectedEnd
    | ([], _) => .ok (.wordBoundary, cs)
    | (word, c :: r) =>
      if c != '}' then .error .invalidBoundary
      else match String.ofList word with
        | "start" => .ok (.wordStart, r)
        | "end" => .ok (.wordEnd, r)
        | "start-half" => .ok (.wordStartHalf, r)
        | "end-half" => .ok (.wordEndHalf, r)
        | _ => .error .invalidBoundary
  | _ => .ok (.wordBoundary, cs)

/-- An escape, from the text after the backslash. A character that is neither letter nor digit
stands for itself. -/
def readEscape (verbose : Bool) : List Char → Except Error (Escape × List Char)
  | [] => .error .unexpectedEnd
  | 'x' :: r => literal <$> readCode verbose 2 r
  | 'u' :: r => literal <$> readCode verbose 4 r
  | 'U' :: r => literal <$> readCode verbose 8 r
  | 'p' :: r => set <$> readProperty verbose false r
  | 'P' :: r => set <$> readProperty verbose true r
  | 'b' :: r => (fun (a, r) => (.assertion a, r)) <$> readBoundary verbose r
  | c :: r =>
    match c with
    | 'd' => .ok (.set (.shorthand .digit false), r)
    | 's' => .ok (.set (.shorthand .space false), r)
    | 'w' => .ok (.set (.shorthand .word false), r)
    | 'D' => .ok (.set (.shorthand .digit true), r)
    | 'S' => .ok (.set (.shorthand .space true), r)
    | 'W' => .ok (.set (.shorthand .word true), r)
    | 'a' => .ok (.literal ⟨'\x07', false⟩, r)
    | 'f' => .ok (.literal ⟨'\x0c', false⟩, r)
    | 't' => .ok (.literal ⟨'\t', false⟩, r)
    | 'n' => .ok (.literal ⟨'\n', false⟩, r)
    | 'r' => .ok (.literal ⟨'\r', false⟩, r)
    | 'v' => .ok (.literal ⟨'\x0b', false⟩, r)
    | 'A' => .ok (.assertion .textStart, r)
    | 'z' => .ok (.assertion .textEnd, r)
    | 'B' => .ok (.assertion .noWordBoundary, r)
    | '<' => .ok (.assertion .wordStart, r)
    | '>' => .ok (.assertion .wordEnd, r)
    | _ =>
      if c.isDigit then .error .backreference
      else if c.toNat < 128 && !c.isAlpha then .ok (.literal ⟨c, false⟩, r)
      else .error .unrecognizedEscape
where
  literal : Literal × List Char → Escape × List Char := fun (l, r) => (.literal l, r)
  set : ClassSet × List Char → Escape × List Char := fun (s, r) => (.set s, r)

end FleetSelect.Regex
