import FleetSelect.Regex.Layout

namespace FleetSelect.Regex

/-- A step repeated a number of times, or until the memory is too large. -/
def build (step : Memory → Memory) : Nat → Memory → Memory
  | 0, m => m
  | n + 1, m => if m.isTooLarge then m else build step n (step m)

def Layout.measure (d : Direction) : Layout → Memory → Memory
  | .fixed n, m => m.add n
  | .forms fs, m => if d = .forward then addForms fs m else addFormsBackward fs m
  | .join l k, m => k.measure d (l.measure d m)
  | .copies n l, m => build (l.measure d) n m

/-- A choice of very many words, for which no machine of states is built. -/
def isWordList : Regex → Bool
  | .alternation rs => 3000 ≤ rs.length && (rs.mapM text?).isSome
  | _ => false

/-- Some machine for an expression does not keep within the limit. -/
def isTooLarge (r : Regex) : Bool :=
  !isWordList r && [Direction.forward, .backward].any fun d =>
    ((machine d r).measure d ⟨0, 0⟩).isTooLarge

end FleetSelect.Regex
