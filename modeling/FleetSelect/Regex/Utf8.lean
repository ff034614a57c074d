import FleetSelect.Unicode.CodeSet

namespace FleetSelect.Regex

open FleetSelect.Unicode

def utf8Bytes (n : Nat) : List Nat :=
  if n < 0x80 then [n]
  else if n < 0x800 then [0xC0 + n / 64, 0x80 + n % 64]
  else if n < 0x10000 then [0xE0 + n / 4096, 0x80 + n / 64 % 64, 0x80 + n % 64]
  else [0xF0 + n / 262144, 0x80 + n / 4096 % 64, 0x80 + n / 64 % 64, 0x80 + n % 64]

def textBytes (cs : List Char) : List Nat :=
  cs.flatMap fun c => utf8Bytes c.toNat

def greatestOfWidth : Nat → Nat
  | 1 => 0x7F
  | 2 => 0x7FF
  | 3 => 0xFFFF
  | _ => lastCode

/-- The first place at which a range has to be cut so that each of its two parts is closer to having
equally many bytes, of which all but one run through whole intervals. -/
def cutPlace? (lo hi : Nat) : Option Nat :=
  ([1, 2, 3].map greatestOfWidth).find? (fun m => lo ≤ m && m < hi) |>.or <|
    if hi < 0x80 then none
    else [64, 4096, 262144].findSome? fun block =>
      if lo / block = hi / block then none
      else if lo % block ≠ 0 then some ((lo / block + 1) * block - 1)
      else if hi % block ≠ block - 1 then some (hi / block * block - 1)
      else none

/-- The parts of a range, in order, with the surrogates left out. The number bounds how often a part
is cut again. -/
def cutRange : Nat → Nat → Nat → List (Nat × Nat)
  | 0, lo, hi => [(lo, hi)]
  | n + 1, lo, hi =>
    if hi < lo then []
    else if lo < 0xE000 && 0xD7FF < hi then
      cutRange n lo 0xD7FF ++ cutRange n 0xE000 hi
    else match cutPlace? lo hi with
      | some m => cutRange n lo m ++ cutRange n (m + 1) hi
      | none => [(lo, hi)]

/-- Intervals of bytes, one for each place of a form in UTF-8. -/
abbrev ByteRanges := List (Nat × Nat)

def byteRanges (s : CodeSet) : List ByteRanges :=
  (s.ranges.flatMap fun (lo, hi) => cutRange 40 lo hi).map fun (lo, hi) =>
    (utf8Bytes lo).zip (utf8Bytes hi)

end FleetSelect.Regex
