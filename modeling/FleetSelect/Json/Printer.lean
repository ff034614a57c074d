import FleetSelect.Json.Value
import FleetSelect.Text.Digits

namespace FleetSelect.Json

open FleetSelect.Text

def escape (c : Char) : List Char :=
  if c = '"' then ['\\', '"']
  else if c = '\\' then ['\\', '\\']
  else if c = '\x08' then ['\\', 'b']
  else if c = '\x0c' then ['\\', 'f']
  else if c = '\n' then ['\\', 'n']
  else if c = '\r' then ['\\', 'r']
  else if c = '\t' then ['\\', 't']
  else if c.toNat < 32 then
    ['\\', 'u', '0', '0', hexDigit (c.toNat / 16), hexDigit (c.toNat % 16)]
  else [c]

def quote (s : String) : List Char :=
  '"' :: (s.toList.flatMap escape ++ ['"'])

/-- A text in quotes; one that no text can hold is written as a lone surrogate. -/
def quote? : Option String → List Char
  | some s => quote s
  | none => ['"', '\\', 'u', 'd', '8', '0', '0', '"']

/-- How values are laid out: on one line, or on many from a level of indentation by two spaces. -/
inductive Layout where
  | compact
  | indented (level : Nat)

namespace Layout

def deeper : Layout → Layout
  | .compact => .compact
  | .indented n => .indented (n + 1)

def lineBreak : Layout → List Char
  | .compact => []
  | .indented n => '\n' :: List.replicate (2 * n) ' '

def afterName : Layout → List Char
  | .compact => [':']
  | .indented _ => [':', ' ']

end Layout

mutual

def Value.write (l : Layout) : Value → List Char
  | .null => ['n', 'u', 'l', 'l']
  | .bool true => ['t', 'r', 'u', 'e']
  | .bool false => ['f', 'a', 'l', 's', 'e']
  | .number n => n.literal
  | .text s => quote? s
  | .array [] => ['[', ']']
  | .array (v :: vs) =>
    '[' :: (l.deeper.lineBreak ++ (v.write l.deeper ++ writeElements l.deeper vs) ++
      l.lineBreak ++ [']'])
  | .object [] => ['{', '}']
  | .object ((s, v) :: ms) =>
    '{' :: (l.deeper.lineBreak ++
      (quote? s ++ l.deeper.afterName ++ v.write l.deeper ++ writeMembers l.deeper ms) ++
      l.lineBreak ++ ['}'])

def writeElements (l : Layout) : List Value → List Char
  | [] => []
  | v :: vs => ',' :: (l.lineBreak ++ v.write l ++ writeElements l vs)

def writeMembers (l : Layout) : List (Option String × Value) → List Char
  | [] => []
  | (s, v) :: ms => ',' :: (l.lineBreak ++ quote? s ++ l.afterName ++ v.write l ++ writeMembers l ms)

end

def Value.compact (v : Value) : String :=
  String.ofList (v.write .compact)

def Value.pretty (v : Value) : String :=
  String.ofList (v.write (.indented 0))

end FleetSelect.Json
