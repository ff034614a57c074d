namespace FleetSelect.Unicode

def lastCode : Nat := 0x10FFFF

/-- Inclusive ranges of code points. Every operation here yields increasing ranges with a gap
between neighbours, and membership relies on the order. -/
structure CodeSet where
  ranges : List (Nat × Nat)
deriving DecidableEq, Inhabited

namespace CodeSet

def inRanges (n : Nat) : List (Nat × Nat) → Bool
  | [] => false
  | (lo, hi) :: r => if n < lo then false else if n ≤ hi then true else inRanges n r

def contains (s : CodeSet) (n : Nat) : Bool :=
  inRanges n s.ranges

/-- Ranges ordered by their start, put together where they meet or overlap. -/
def coalesce (current : Nat × Nat) : List (Nat × Nat) → List (Nat × Nat)
  | [] => [current]
  | r :: rs =>
    if r.1 ≤ current.2 + 1 then coalesce (current.1, max current.2 r.2) rs
    else current :: coalesce r rs

def ofRanges (rs : List (Nat × Nat)) : CodeSet :=
  match rs.mergeSort (fun a b => a.1 ≤ b.1) with
  | [] => ⟨[]⟩
  | r :: rest => ⟨coalesce r rest⟩

def empty : CodeSet := ⟨[]⟩

def ofCode (n : Nat) : CodeSet := ⟨[(n, n)]⟩

def ofChar (c : Char) : CodeSet := ofCode c.toNat

def union (s t : CodeSet) : CodeSet :=
  ofRanges (s.ranges ++ t.ranges)

def unions (ss : List CodeSet) : CodeSet :=
  ofRanges (ss.flatMap ranges)

/-- The ranges between increasing ranges, from `start` up to the last code point. -/
def gaps (start : Nat) : List (Nat × Nat) → List (Nat × Nat)
  | [] => if start ≤ lastCode then [(start, lastCode)] else []
  | (lo, hi) :: r => if start < lo then (start, lo - 1) :: gaps (hi + 1) r else gaps (hi + 1) r

def complement (s : CodeSet) : CodeSet :=
  ⟨gaps 0 s.ranges⟩

def inter (s t : CodeSet) : CodeSet :=
  (s.complement.union t.complement).complement

def diff (s t : CodeSet) : CodeSet :=
  s.inter t.complement

def symmDiff (s t : CodeSet) : CodeSet :=
  (s.union t).diff (s.inter t)

def isAscii (s : CodeSet) : Bool :=
  s.ranges.all fun r => r.2 < 128

end CodeSet

end FleetSelect.Unicode
