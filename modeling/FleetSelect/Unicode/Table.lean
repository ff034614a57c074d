import FleetSelect.Text.Digits
import FleetSelect.Unicode.CodeSet

namespace FleetSelect.Unicode

open FleetSelect.Text

def wordsOf (t : String) : List String :=
  ((t.splitOn "\n").flatMap (·.splitOn " ")).filter (· != "")

def readRange (t : String) : Nat × Nat :=
  match t.splitOn "-" with
  | [lo, hi] => (hexNumber lo.toList, hexNumber hi.toList)
  | _ => (hexNumber t.toList, hexNumber t.toList)

/-- Sets of code points by name, each with its other names, in lower case without spaces, hyphens
and underscores. -/
abbrev Table := List (List String × CodeSet)

namespace Table

def readEntry (t : String) : List String × CodeSet :=
  match t.splitOn ":" with
  | [names, ranges] => (wordsOf names, ⟨(wordsOf ranges).map readRange⟩)
  | _ => ([], .empty)

/-- Entries end at `;`. An entry is its names, a colon and hexadecimal ranges such as `41-5A`. -/
def ofText (t : String) : Table :=
  (t.splitOn ";").map readEntry

def get? (t : Table) (name : String) : Option CodeSet :=
  (t.find? fun e => e.1.contains name).map (·.2)

def get (t : Table) (name : String) : CodeSet :=
  (t.get? name).getD .empty

end Table

end FleetSelect.Unicode
