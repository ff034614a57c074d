import FleetSelect.Regex.Basic
import FleetSelect.Regex.Property
import FleetSelect.Regex.Syntax
import FleetSelect.Regex.Error
import FleetSelect.Unicode.CaseFolding

namespace FleetSelect.Regex

open FleetSelect.Unicode

structure Flags where
  caseInsensitive : Bool := false
  multiLine : Bool := false
  dotAll : Bool := false
  swapGreed : Bool := false
  unicode : Bool := true
  crlf : Bool := false

namespace Flags

def change (f : Flags) (cs : FlagChanges) : Flags where
  caseInsensitive := (cs.value? .caseInsensitive).getD f.caseInsensitive
  multiLine := (cs.value? .multiLine).getD f.multiLine
  dotAll := (cs.value? .dotAll).getD f.dotAll
  swapGreed := (cs.value? .swapGreed).getD f.swapGreed
  unicode := (cs.value? .unicode).getD f.unicode
  crlf := (cs.value? .crlf).getD f.crlf

end Flags

def NamedClass.set : NamedClass → CodeSet
  | .alnum => ⟨[(0x30, 0x39), (0x41, 0x5A), (0x61, 0x7A)]⟩
  | .alpha => ⟨[(0x41, 0x5A), (0x61, 0x7A)]⟩
  | .ascii => ⟨[(0x00, 0x7F)]⟩
  | .blank => ⟨[(0x09, 0x09), (0x20, 0x20)]⟩
  | .cntrl => ⟨[(0x00, 0x1F), (0x7F, 0x7F)]⟩
  | .digit => ⟨[(0x30, 0x39)]⟩
  | .graph => ⟨[(0x21, 0x7E)]⟩
  | .lower => ⟨[(0x61, 0x7A)]⟩
  | .print => ⟨[(0x20, 0x7E)]⟩
  | .punct => ⟨[(0x21, 0x2F), (0x3A, 0x40), (0x5B, 0x60), (0x7B, 0x7E)]⟩
  | .space => ⟨[(0x09, 0x0D), (0x20, 0x20)]⟩
  | .upper => ⟨[(0x41, 0x5A)]⟩
  | .word => ⟨[(0x30, 0x39), (0x41, 0x5A), (0x5F, 0x5F), (0x61, 0x7A)]⟩
  | .xdigit => ⟨[(0x30, 0x39), (0x41, 0x46), (0x61, 0x66)]⟩

def Shorthand.set (unicode : Bool) : Shorthand → CodeSet
  | .digit => if unicode then decimalDigits else NamedClass.digit.set
  | .space => if unicode then Property.whiteSpace else NamedClass.space.set
  | .word => if unicode then Property.word else NamedClass.word.set

def foldAscii (s : CodeSet) : CodeSet :=
  let upper := s.inter NamedClass.upper.set
  let lower := s.inter NamedClass.lower.set
  .unions [s, ⟨upper.ranges.map fun r => (r.1 + 32, r.2 + 32)⟩,
    ⟨lower.ranges.map fun r => (r.1 - 32, r.2 - 32)⟩]

def fold (f : Flags) (s : CodeSet) : CodeSet :=
  if !f.caseInsensitive then s else if f.unicode then CaseFolding.close s else foldAscii s

def negateIf (f : Flags) (negated : Bool) (s : CodeSet) : Except Error CodeSet :=
  let s := if negated then s.complement else s
  if f.unicode || s.isAscii then .ok s else .error .invalidUtf8

def literalCode (f : Flags) (l : Literal) : Except Error Nat :=
  if f.unicode || l.char.toNat < 128 then .ok l.char.toNat else .error .unicodeNotAllowed

def SetOperation.apply : SetOperation → CodeSet → CodeSet → CodeSet
  | .inter => .inter
  | .diff => .diff
  | .symmDiff => .symmDiff

mutual

def ClassSet.codes (f : Flags) : ClassSet → Except Error CodeSet
  | .empty => .ok .empty
  | .literal l => CodeSet.ofCode <$> literalCode f l
  | .range first last => do
    return .ofRanges [(← literalCode f first, ← literalCode f last)]
  | .named n negated => negateIf f negated (fold f n.set)
  | .shorthand s negated => negateIf f negated (s.set f.unicode)
  | .property q negated =>
    if !f.unicode then .error .unicodeNotAllowed
    else match q.set? with
      | some s => negateIf f negated (fold f s)
      | none => .error .unknownProperty
  | .bracketed s negated => do
    negateIf f negated (fold f (← s.codes f))
  | .union items => do
    return .unions (← ClassSet.codesOfItems f items)
  | .operation op left right => do
    return op.apply (fold f (← left.codes f)) (fold f (← right.codes f))

def ClassSet.codesOfItems (f : Flags) : List ClassSet → Except Error (List CodeSet)
  | [] => .ok []
  | s :: ss => do
    return (← s.codes f) :: (← ClassSet.codesOfItems f ss)

end

/-- A literal. A byte above 127 is no character of its own. -/
def ofLiteral (f : Flags) (l : Literal) : Except Error Regex :=
  if !f.unicode && l.isByte && 128 ≤ l.char.toNat then .error .invalidUtf8
  else if f.caseInsensitive && (f.unicode || l.char.toNat < 128) then
    .ok (ofSet f.unicode (fold f (.ofChar l.char)))
  else .ok (.text [l.char])

def ofDot (f : Flags) : Except Error Regex :=
  if !f.unicode then .error .invalidUtf8
  else if f.dotAll then .ok (.set (CodeSet.complement .empty) true)
  else if f.crlf then
    .ok (.set (CodeSet.complement (.ofRanges [(0x0A, 0x0A), (0x0D, 0x0D)])) true)
  else .ok (.set (CodeSet.complement (.ofCode 0x0A)) true)

def ofAssertion (f : Flags) : Assertion → Look
  | .lineStart =>
    if !f.multiLine then .textStart else if f.crlf then .lineStartCrlf else .lineStart
  | .lineEnd => if !f.multiLine then .textEnd else if f.crlf then .lineEndCrlf else .lineEnd
  | .textStart => .textStart
  | .textEnd => .textEnd
  | .wordBoundary => .wordBoundary f.unicode
  | .noWordBoundary => .noWordBoundary f.unicode
  | .wordStart => .wordStart f.unicode
  | .wordEnd => .wordEnd f.unicode
  | .wordStartHalf => .wordStartHalf f.unicode
  | .wordEndHalf => .wordEndHalf f.unicode

mutual

/-- The meaning of an expression and the flags in force after it. -/
def Syntax.interpret (f : Flags) : Syntax → Except Error (Regex × Flags)
  | .empty => .ok (.empty, f)
  | .flags changes => .ok (.empty, f.change changes)
  | .literal l => do return (← ofLiteral f l, f)
  | .dot => do return (← ofDot f, f)
  | .assertion a => .ok (.look (ofAssertion f a), f)
  | .set s => do return (ofSet f.unicode (← s.codes f), f)
  | .repetition min max isLazy body => do
    let (r, f) ← body.interpret f
    return (repeated min max (isLazy == f.swapGreed) r, f)
  | .group changes captures body => do
    let (r, _) ← body.interpret (f.change changes)
    return (if captures then .capture r else r, f)
  | .alternation branches => do
    let (rs, f) ← Syntax.interpretList f branches
    return (choice rs, f)
  | .concatenation parts => do
    let (rs, f) ← Syntax.interpretList f parts
    return (sequence rs, f)

def Syntax.interpretList (f : Flags) : List Syntax → Except Error (List Regex × Flags)
  | [] => .ok ([], f)
  | s :: ss => do
    let (r, f) ← s.interpret f
    let (rs, f) ← Syntax.interpretList f ss
    return (r :: rs, f)

end

end FleetSelect.Regex
