namespace FleetSelect.Regex

structure Literal where
  char : Char
  /-- It was written as `\x` and two digits, which name a byte where Unicode is off. -/
  isByte : Bool := false

inductive Shorthand where
  | digit
  | space
  | word

inductive NamedClass where
  | alnum
  | alpha
  | ascii
  | blank
  | cntrl
  | digit
  | graph
  | lower
  | print
  | punct
  | space
  | upper
  | word
  | xdigit

inductive Query where
  | name (name : String)
  | value (name value : String)

inductive SetOperation where
  | inter
  | diff
  | symmDiff

inductive ClassSet where
  | empty
  | literal (l : Literal)
  | range (first last : Literal)
  | named (name : NamedClass) (negated : Bool)
  | shorthand (s : Shorthand) (negated : Bool)
  | property (q : Query) (negated : Bool)
  | bracketed (set : ClassSet) (negated : Bool)
  | union (items : List ClassSet)
  | operation (op : SetOperation) (left right : ClassSet)

inductive Assertion where
  | lineStart
  | lineEnd
  | textStart
  | textEnd
  | wordBoundary
  | noWordBoundary
  | wordStart
  | wordEnd
  | wordStartHalf
  | wordEndHalf

inductive Flag where
  | caseInsensitive
  | multiLine
  | dotAll
  | swapGreed
  | unicode
  | crlf
  | verbose
deriving DecidableEq

abbrev FlagChanges := List (Flag × Bool)

def FlagChanges.value? (cs : FlagChanges) (f : Flag) : Option Bool :=
  (cs.find? (·.1 = f)).map (·.2)

inductive Syntax where
  | empty
  | flags (changes : FlagChanges)
  | literal (l : Literal)
  | dot
  | assertion (a : Assertion)
  | set (s : ClassSet)
  /-- A lazy repetition has a question mark after its sign. -/
  | repetition (min : Nat) (max : Option Nat) (isLazy : Bool) (body : Syntax)
  | group (changes : FlagChanges) (captures : Bool) (body : Syntax)
  | alternation (branches : List Syntax)
  | concatenation (parts : List Syntax)

end FleetSelect.Regex
