import FleetSelect.Selector.Basic

namespace FleetSelect

/-- The selectors of a pattern, divided by their operators. The included and excluded ones are there
to be shown. -/
structure Limit where
  unions : List Selector
  intersections : List Selector
  exclusions : List Selector
  /-- The selectors that add or keep, in the order of the pattern. -/
  included : List Selector
  excluded : List Selector
deriving DecidableEq, Inhabited

namespace Limit

def empty : Limit := ⟨[], [], [], [], []⟩

def push (l : Limit) (s : Selector) : Limit :=
  match s.op with
  | .union => { l with unions := l.unions ++ [s], included := l.included ++ [s] }
  | .intersect => { l with intersections := l.intersections ++ [s], included := l.included ++ [s] }
  | .exclude => { l with exclusions := l.exclusions ++ [s], excluded := l.excluded ++ [s] }

def ofList (ss : List Selector) : Limit :=
  ss.foldl push empty

def isEmpty (l : Limit) : Bool :=
  l.unions.isEmpty && l.intersections.isEmpty && l.exclusions.isEmpty

def size (l : Limit) : Nat :=
  l.unions.length + l.intersections.length + l.exclusions.length

/-- The selectors in the order in which they are evaluated. -/
def toList (l : Limit) : List Selector :=
  l.unions ++ l.intersections ++ l.exclusions

def render (l : Limit) : String :=
  ":".intercalate (l.toList.map Selector.render)

theorem length_toList (l : Limit) : l.toList.length = l.size := by
  simp [toList, size, Nat.add_assoc]

end Limit

end FleetSelect
