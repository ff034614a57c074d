namespace FleetSelect.Glob

/-- A piece of a pattern. A class lists its members as they are written. -/
inductive Piece where
  | run
  | anyChar
  | oneOf (members : List Char)
  | noneOf (members : List Char)
  | char (c : Char)
deriving DecidableEq

/-- A character is among the members of a class; a hyphen between two members makes a range. -/
def Listed (c : Char) : List Char → Prop
  | a :: '-' :: b :: r => (a ≤ c ∧ c ≤ b) ∨ Listed c r
  | a :: r => c = a ∨ Listed c r
  | [] => False

/-- The members up to the bracket that closes them, and the text after it. -/
def cutMembers : List Char → Option (List Char × List Char)
  | [] => none
  | c :: r => if c = ']' then some ([], r) else (cutMembers r).map fun (ms, r') => (c :: ms, r')

/-- A class from the text after its sign, and the text after the class. The first character is a
member even if it is `]`. -/
def readMembers (make : List Char → Piece) : List Char → Option (Piece × List Char)
  | [] => none
  | m :: r => (cutMembers r).map fun (ms, r') => (make (m :: ms), r')

def readClass : List Char → Option (Piece × List Char)
  | '!' :: r => readMembers .noneOf r
  | '^' :: r => readMembers .noneOf r
  | r => readMembers .oneOf r

theorem cutMembers_eq_some {t ms r : List Char} (h : cutMembers t = some (ms, r)) :
    t = ms ++ ']' :: r ∧ ']' ∉ ms := by
  induction t generalizing ms with
  | nil => cases h
  | cons c t ih =>
    rw [cutMembers] at h
    split at h
    · next hc =>
      cases h
      exact ⟨congrArg (· :: r) hc, List.not_mem_nil⟩
    · next hc =>
      obtain ⟨⟨ms', r'⟩, ht, he⟩ := Option.map_eq_some_iff.1 h
      cases he
      obtain ⟨rfl, hms⟩ := ih ht
      exact ⟨rfl, List.not_mem_cons_of_ne_of_not_mem (Ne.symm hc) hms⟩

theorem not_mem_of_cutMembers_eq_none {t : List Char} (h : cutMembers t = none) : ']' ∉ t := by
  induction t with
  | nil => exact List.not_mem_nil
  | cons c t ih =>
    rw [cutMembers] at h
    split at h
    · cases h
    · next hc =>
      exact List.not_mem_cons_of_ne_of_not_mem (Ne.symm hc) (ih (Option.map_eq_none_iff.1 h))

theorem readMembers_eq_some {make : List Char → Piece} {t r : List Char} {p : Piece}
    (h : readMembers make t = some (p, r)) :
    ∃ m ms, t = m :: (ms ++ ']' :: r) ∧ ']' ∉ ms ∧ p = make (m :: ms) := by
  cases t with
  | nil => cases h
  | cons m t =>
    obtain ⟨⟨ms, r'⟩, ht, he⟩ := Option.map_eq_some_iff.1 h
    cases he
    obtain ⟨rfl, hms⟩ := cutMembers_eq_some ht
    exact ⟨m, ms, rfl, hms, rfl⟩

theorem length_readMembers {make : List Char → Piece} {t r : List Char} {p : Piece}
    (h : readMembers make t = some (p, r)) : r.length < t.length := by
  obtain ⟨m, ms, rfl, -, -⟩ := readMembers_eq_some h
  simp only [List.length_cons, List.length_append]
  omega

theorem length_readClass {t r : List Char} {p : Piece} (h : readClass t = some (p, r)) :
    r.length < t.length := by
  unfold readClass at h
  split at h
  · exact Nat.lt_succ_of_lt (length_readMembers h)
  · exact Nat.lt_succ_of_lt (length_readMembers h)
  · exact length_readMembers h

/-- The pieces of a pattern, unless a class is not closed. -/
def Piece.read : List Char → Option (List Piece)
  | [] => some []
  | '*' :: r => if r.head? = some '*' then read r else (read r).map (.run :: ·)
  | '?' :: r => (read r).map (.anyChar :: ·)
  | '[' :: r =>
    match _h : readClass r with
    | some (p, r') => (read r').map (p :: ·)
    | none => none
  | c :: r => (read r).map (.char c :: ·)
termination_by t => t.length
decreasing_by
  all_goals simp_wf
  all_goals try have := length_readClass _h
  all_goals omega

theorem Piece.read_open {t r : List Char} {p : Piece} (h : readClass t = some (p, r)) :
    read ('[' :: t) = (read r).map (p :: ·) := by
  rw [read]
  split
  · next h' =>
    rw [h] at h'
    cases h'
    rfl
  · next h' =>
    rw [h] at h'
    cases h'

/-- The characters of which one may stand at a piece, or any number at a run. -/
def Piece.Fits (c : Char) : Piece → Prop
  | .run => c ≠ '/'
  | .anyChar => c ≠ '/'
  | .oneOf ms => c ≠ '/' ∧ Listed c ms
  | .noneOf ms => c ≠ '/' ∧ ¬ Listed c ms
  | .char d => c = d

/-- A text consists of parts that fit the pieces in turn. -/
def Matches : List Piece → List Char → Prop
  | [], cs => cs = []
  | .run :: ps, cs => ∃ u v, cs = u ++ v ∧ (∀ c ∈ u, Piece.run.Fits c) ∧ Matches ps v
  | p :: ps, cs => ∃ c v, cs = c :: v ∧ p.Fits c ∧ Matches ps v

/-- A name matches a pattern as a shell reads it. -/
def ShellMatches (raw name : String) : Prop :=
  ∃ ps, Piece.read raw.toList = some ps ∧ Matches ps name.toList

end FleetSelect.Glob
