import FleetSelect.Json.Value
import FleetSelect.Text.Digits

namespace FleetSelect.Json

open FleetSelect.Text

inductive Token where
  | openObject
  | closeObject
  | openArray
  | closeArray
  | colon
  | comma
  | null
  | bool (b : Bool)
  | number (n : Numeral)
  | text (s : Option String)

namespace Token

def ofChar? : Char → Option Token
  | '{' => some .openObject
  | '}' => some .closeObject
  | '[' => some .openArray
  | ']' => some .closeArray
  | ':' => some .colon
  | ',' => some .comma
  | _ => none

def ofRun? (run : List Char) : Option Token :=
  if run = ['n', 'u', 'l', 'l'] then some .null
  else if run = ['t', 'r', 'u', 'e'] then some (.bool true)
  else if run = ['f', 'a', 'l', 's', 'e'] then some (.bool false)
  else if h : isNumeral run = true then some (.number ⟨run, h⟩)
  else none

end Token

def isSpace (c : Char) : Bool :=
  c == ' ' || c == '\n' || c == '\r' || c == '\t'

def escaped? : Char → Option Char
  | '"' => some '"'
  | '\\' => some '\\'
  | '/' => some '/'
  | 'b' => some '\x08'
  | 'f' => some '\x0c'
  | 'n' => some '\n'
  | 'r' => some '\r'
  | 't' => some '\t'
  | _ => none

def ofPair (high low : Nat) : Char :=
  Char.ofNat (0x10000 + (high - 0xD800) * 0x400 + (low - 0xDC00))

def isHighSurrogate (n : Nat) : Bool :=
  0xD800 ≤ n && n ≤ 0xDBFF

def isLowSurrogate (n : Nat) : Bool :=
  0xDC00 ≤ n && n ≤ 0xDFFF

/-- The characters of a text given by code points and surrogates, if every surrogate is one of a
pair. -/
def ofUnits? : List Nat → Option (List Char)
  | [] => some []
  | [u] => if isHighSurrogate u || isLowSurrogate u then none else some [Char.ofNat u]
  | u :: v :: r =>
    if isHighSurrogate u then
      if isLowSurrogate v then (ofUnits? r).map (ofPair u v :: ·) else none
    else if isLowSurrogate u then none
    else (ofUnits? (v :: r)).map (Char.ofNat u :: ·)

/-- What the lexer is inside of; what was read of it stands last character first. -/
inductive Scan where
  | between
  | run (chars : List Char)
  | text (units : List Nat)
  | escape (units : List Nat)
  | code (units : List Nat) (digits : List Char)

structure Lexer where
  scan : Scan
  tokens : List Token

namespace Lexer

def start : Lexer := ⟨.between, []⟩

def enter (tokens : List Token) (c : Char) : Lexer :=
  if isSpace c then ⟨.between, tokens⟩
  else if c = '"' then ⟨.text [], tokens⟩
  else match Token.ofChar? c with
    | some t => ⟨.between, t :: tokens⟩
    | none => ⟨.run [c], tokens⟩

def endsRun (c : Char) : Bool :=
  isSpace c || c == '"' || (Token.ofChar? c).isSome

def step (l : Lexer) (c : Char) : Option Lexer :=
  match l.scan with
  | .between => some (enter l.tokens c)
  | .run cs =>
    if endsRun c then (Token.ofRun? cs.reverse).map fun t => enter (t :: l.tokens) c
    else some ⟨.run (c :: cs), l.tokens⟩
  | .text us =>
    if c = '"' then some ⟨.between, .text ((ofUnits? us.reverse).map String.ofList) :: l.tokens⟩
    else if c = '\\' then some ⟨.escape us, l.tokens⟩
    else if c.toNat < 32 then none
    else some ⟨.text (c.toNat :: us), l.tokens⟩
  | .escape us =>
    if c = 'u' then some ⟨.code us [], l.tokens⟩
    else (escaped? c).map fun e => ⟨.text (e.toNat :: us), l.tokens⟩
  | .code us ds =>
    if !isHexDigit c then none
    else if ds.length = 3 then some ⟨.text (hexNumber (c :: ds).reverse :: us), l.tokens⟩
    else some ⟨.code us (c :: ds), l.tokens⟩

def finish (l : Lexer) : Option (List Token) :=
  match l.scan with
  | .between => some l.tokens.reverse
  | .run cs => (Token.ofRun? cs.reverse).map fun t => (t :: l.tokens).reverse
  | _ => none

end Lexer

def tokens? (cs : List Char) : Option (List Token) :=
  (cs.foldlM Lexer.step .start).bind Lexer.finish

end FleetSelect.Json
