import FleetSelect.Text.Digits

namespace FleetSelect.Address

open FleetSelect.Text

/-- A number up to 255 of at most three digits, without a leading zero. -/
def isOctet (ds : List Char) : Bool :=
  ds.all Char.isDigit && ds != [] && ds.length ≤ 3 && decimalNumber ds ≤ 255 &&
    (ds.head? != some '0' || ds.length == 1)

def isDotted (cs : List Char) : Bool :=
  let ps := cs.splitOn '.'
  ps.length == 4 && ps.all isOctet

def isGroup (ds : List Char) : Bool :=
  ds.all isHexDigit && ds != [] && ds.length ≤ 4

/-- The number of groups that pieces stand for, where the last may be dotted and stand for two. -/
def groupCount : List (List Char) → Option Nat
  | [] => some 0
  | [p] => if isGroup p then some 1 else if isDotted p then some 2 else none
  | p :: r => if isGroup p then (groupCount r).map (· + 1) else none

/-- The groups of one side of a gap: none at all, or pieces with colons between them. -/
def side (cs : List Char) : List (List Char) :=
  if cs = [] then [] else cs.splitOn ':'

def cutGap : List Char → Option (List Char × List Char)
  | [] => none
  | ':' :: ':' :: r => some ([], r)
  | c :: r => (cutGap r).map fun (before, after) => (c :: before, after)

/-- Eight groups, or a gap with at most seven groups around it and no octets before it. -/
def isColoned (cs : List Char) : Bool :=
  match cutGap cs with
  | none => groupCount (cs.splitOn ':') == some 8
  | some (before, after) =>
    (side before).all isGroup &&
      match groupCount (side after) with
      | some n => (side before).length + n ≤ 7
      | none => false

/-- Four decimal octets, or eight hexadecimal groups of which one run of zeros may be written `::`
and the last two may be octets. -/
def isAddress (cs : List Char) : Bool :=
  isDotted cs || isColoned cs

end FleetSelect.Address
