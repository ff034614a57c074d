namespace FleetSelect.Glob

inductive Member where
  | char (c : Char)
  | range (first last : Char)
deriving DecidableEq

namespace Member

def contains (c : Char) : Member → Bool
  | .char d => c == d
  | .range first last => first ≤ c && c ≤ last

/-- The members between brackets; a hyphen between two characters makes a range. -/
def ofList : List Char → List Member
  | a :: '-' :: b :: r => .range a b :: ofList r
  | a :: r => .char a :: ofList r
  | [] => []

end Member

/-- A class stands for one of its members or for one that is no member, and nothing that stands for
other characters stands for `/`. -/
inductive Token where
  | char (c : Char)
  | anyChar
  | anyRun
  /-- Any number of whole components. -/
  | anyComponents
  | oneOf (members : List Member)
  | noneOf (members : List Member)
deriving DecidableEq

inductive Error where
  | unclosedClass
  | tooManyStars
  | misplacedStars
deriving DecidableEq

/-- The members of a class and the text after it, from the text after the opening bracket and the
sign. The first character is a member even if it is `]`. -/
def cutClass : List Char → Option (List Char × List Char)
  | [] => none
  | c :: r =>
    if ']' ∈ r then some (c :: r.takeWhile (· ≠ ']'), (r.dropWhile (· ≠ ']')).drop 1) else none

theorem length_cutClass {cs ms r : List Char} (h : cutClass cs = some (ms, r)) :
    r.length < cs.length := by
  cases cs with
  | nil => simp [cutClass] at h
  | cons c cs =>
    simp only [cutClass, Option.ite_none_right_eq_some, Option.some.injEq, Prod.mk.injEq] at h
    obtain ⟨_, _, rfl⟩ := h
    have := (List.dropWhile_sublist (fun x => decide (x ≠ ']')) (l := cs)).length_le
    simp only [List.length_drop, List.length_cons]
    omega

/-- The tokens of a text. `start` says that a component may start here. -/
@[simp] def Token.read (start : Bool) : List Char → Except Error (List Token)
  | [] => .ok []
  | '?' :: r => (.anyChar :: ·) <$> read false r
  | '*' :: '*' :: '*' :: _ => .error .tooManyStars
  | '*' :: '*' :: r =>
    if !start then .error .misplacedStars
    else match r with
      | [] => .ok [.anyComponents]
      | '/' :: r => (.anyComponents :: ·) <$> read true r
      | _ => .error .misplacedStars
  | '*' :: r => (.anyRun :: ·) <$> read false r
  | '[' :: '!' :: r =>
    match _h : cutClass r with
    | some (ms, r') => (.noneOf (Member.ofList ms) :: ·) <$> read false r'
    | none => .error .unclosedClass
  | '[' :: r =>
    match _h : cutClass r with
    | some (ms, r') => (.oneOf (Member.ofList ms) :: ·) <$> read false r'
    | none => .error .unclosedClass
  | c :: r => (.char c :: ·) <$> read (c == '/') r
termination_by cs => cs.length
decreasing_by
  all_goals simp_wf
  all_goals try have := length_cutClass _h
  all_goals simp_all
  all_goals omega

def compile (cs : List Char) : Except Error (List Token) :=
  Token.read true cs

/-- For each end of a text whether it matches one character and then a pattern, given the same
answers for the pattern. -/
def rowOne (p : Char → Bool) : List Char → List Bool → List Bool
  | c :: cs, _ :: row => (p c && row.headD false) :: rowOne p cs row
  | _, _ => [false]

def rowRun : List Char → List Bool → List Bool
  | c :: cs, b :: row =>
    let rest := rowRun cs row
    (b || (c != '/' && rest.headD false)) :: rest
  | _, row => row

/-- The same for any number of components: the pattern follows at once, after some `/`, or at the
end of the text. -/
def rowComponents : List Char → List Bool → List Bool
  | c :: cs, b :: row =>
    let rest := rowComponents cs row
    (b || (c == '/' && row.headD false) || later cs row) :: rest
  | _, row => row
where
  later : List Char → List Bool → Bool
    | c :: cs, _ :: row => (c == '/' && row.headD false) || later cs row
    | _, row => row.headD false

def Token.row (cs : List Char) (row : List Bool) : Token → List Bool
  | .char c => rowOne (· == c) cs row
  | .anyChar => rowOne (· != '/') cs row
  | .oneOf ms => rowOne (fun c => c != '/' && ms.any (·.contains c)) cs row
  | .noneOf ms => rowOne (fun c => c != '/' && !ms.any (·.contains c)) cs row
  | .anyRun => rowRun cs row
  | .anyComponents => rowComponents cs row

/-- For each end of a text, from the whole text to the empty one, whether it matches a pattern. -/
def rows (cs : List Char) (ts : List Token) : List Bool :=
  ts.foldr (fun t row => t.row cs row) (List.replicate cs.length false ++ [true])

def isMatch (ts : List Token) (cs : List Char) : Bool :=
  (rows cs ts).headD false

end FleetSelect.Glob
