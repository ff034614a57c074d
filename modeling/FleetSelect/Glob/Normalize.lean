namespace FleetSelect.Glob

/-- What stands before the next character. -/
inductive Context where
  | plain
  | star
  | members
deriving DecidableEq

/-- The normal form of the rest of a text: a class negated by `^` is negated by `!`, and a run of
stars outside of classes is one star. -/
@[simp] def normalizeFrom : Context → List Char → List Char
  | _, [] => []
  | .members, c :: r => c :: normalizeFrom (if c = ']' then .plain else .members) r
  | .star, '*' :: r => normalizeFrom .star r
  | _, '*' :: r => '*' :: normalizeFrom .star r
  | _, '[' :: '^' :: r => '[' :: '!' :: normalizeFrom .members r
  | _, '[' :: r => '[' :: normalizeFrom .members r
  | _, c :: r => c :: normalizeFrom .plain r

def normalize (cs : List Char) : List Char :=
  normalizeFrom .plain cs

end FleetSelect.Glob
