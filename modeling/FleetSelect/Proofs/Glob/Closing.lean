import FleetSelect.Proofs.Glob.Normal

namespace FleetSelect.Glob

def afterSign : List Char → List Char
  | '!' :: r => r
  | '^' :: r => r
  | r => r

/-- Reading from the left, a class is opened that is never closed. The first character of a class is
a member even if it is `]`. -/
inductive LeavesOpen : List Char → Prop
  | here {t : List Char} : ']' ∉ (afterSign t).drop 1 → LeavesOpen ('[' :: t)
  | skip {c : Char} {r : List Char} : c ≠ '[' → LeavesOpen r → LeavesOpen (c :: r)
  | brackets {m : Char} {t ms r : List Char} : afterSign t = m :: (ms ++ ']' :: r) → ']' ∉ ms →
    LeavesOpen r → LeavesOpen ('[' :: t)

variable {c : Char} {t ms r : List Char}

theorem cutMembers_append (hms : ']' ∉ ms) (r : List Char) :
    cutMembers (ms ++ ']' :: r) = some (ms, r) := by
  induction ms with
  | nil => rfl
  | cons m ms ih =>
    have hm : m ≠ ']' := (List.ne_of_not_mem_cons hms).symm
    rw [List.cons_append, cutMembers, if_neg hm, ih (List.not_mem_of_not_mem_cons hms)]
    rfl

theorem cutMembers_eq_none_iff : cutMembers t = none ↔ ']' ∉ t := by
  constructor
  · exact not_mem_of_cutMembers_eq_none
  · intro ht
    cases h : cutMembers t with
    | none => rfl
    | some q =>
      obtain ⟨ms, r⟩ := q
      rw [(cutMembers_eq_some h).1] at ht
      exact absurd (List.mem_append_right ms (List.mem_cons_self ..)) ht

theorem readMembers_eq_none_iff {make : List Char → Piece} :
    readMembers make t = none ↔ ']' ∉ t.drop 1 := by
  cases t with
  | nil => exact iff_of_true rfl List.not_mem_nil
  | cons m t =>
    rw [readMembers, Option.map_eq_none_iff, cutMembers_eq_none_iff, List.drop_one, List.tail_cons]

theorem exists_readClass_eq (t : List Char) :
    ∃ make, readClass t = readMembers make (afterSign t) := by
  unfold readClass
  split
  · exact ⟨.noneOf, rfl⟩
  · exact ⟨.noneOf, rfl⟩
  · next h1 h2 => exact ⟨.oneOf, by rw [afterSign.eq_3 t h1 h2]⟩

theorem readClass_eq_none_iff : readClass t = none ↔ ']' ∉ (afterSign t).drop 1 := by
  obtain ⟨make, ht⟩ := exists_readClass_eq t
  rw [ht, readMembers_eq_none_iff]

theorem exists_readClass_eq_some_iff : (∃ p, readClass t = some (p, r)) ↔
    ∃ m ms, afterSign t = m :: (ms ++ ']' :: r) ∧ ']' ∉ ms := by
  obtain ⟨make, ht⟩ := exists_readClass_eq t
  rw [ht]
  constructor
  · intro h
    obtain ⟨p, hp⟩ := h
    obtain ⟨m, ms, he, hms, -⟩ := readMembers_eq_some hp
    exact ⟨m, ms, he, hms⟩
  · intro h
    obtain ⟨m, ms, he, hms⟩ := h
    refine ⟨make (m :: ms), ?_⟩
    rw [he, readMembers, cutMembers_append hms]
    rfl

theorem Piece.read_open_eq_none (h : readClass t = none) : read ('[' :: t) = none := by
  rw [read]
  split
  · next h' =>
    rw [h] at h'
    cases h'
  · rfl

theorem Piece.read_cons_eq_none (hc : c ≠ '[') (h : read r = none) : read (c :: r) = none := by
  by_cases hs : c = '*'
  · subst hs
    rw [read]
    split
    · exact h
    · rw [h]
      rfl
  · by_cases hq : c = '?'
    · subst hq
      rw [read, h]
      rfl
    · rw [read.eq_5 c r hs hq hc, h]
      rfl

theorem Piece.read_eq_none_of_leavesOpen (h : LeavesOpen t) : read t = none := by
  induction h with
  | here ht => exact read_open_eq_none (readClass_eq_none_iff.2 ht)
  | skip hc _ ih => exact read_cons_eq_none hc ih
  | brackets ht hms _ ih =>
    obtain ⟨p, hp⟩ := exists_readClass_eq_some_iff.2 ⟨_, _, ht, hms⟩
    rw [read_open hp, ih]
    rfl

theorem leavesOpen_of_read_eq_none (t : List Char) : Piece.read t = none → LeavesOpen t := by
  fun_induction Piece.read t with
  | case1 =>
    intro h
    cases h
  | case2 t ht ih =>
    intro h
    exact .skip (by decide) (ih h)
  | case3 t ht ih =>
    intro h
    exact .skip (by decide) (ih (Option.map_eq_none_iff.1 h))
  | case4 t ih =>
    intro h
    exact .skip (by decide) (ih (Option.map_eq_none_iff.1 h))
  | case5 t p r hp ih =>
    intro h
    obtain ⟨m, ms, ht, hms⟩ := exists_readClass_eq_some_iff.1 ⟨p, hp⟩
    exact .brackets ht hms (ih (Option.map_eq_none_iff.1 h))
  | case6 t ht =>
    intro h
    exact .here (readClass_eq_none_iff.1 ht)
  | case7 c t h1 h2 h3 ih =>
    intro h
    exact .skip h3 (ih (Option.map_eq_none_iff.1 h))

theorem read_eq_none_iff : Piece.read t = none ↔ LeavesOpen t :=
  ⟨leavesOpen_of_read_eq_none t, Piece.read_eq_none_of_leavesOpen⟩

theorem Piece.token_ne_anyComponents (p : Piece) : p.token ≠ .anyComponents := by
  cases p with
  | run => exact Token.noConfusion
  | anyChar => exact Token.noConfusion
  | oneOf => exact Token.noConfusion
  | noneOf => exact Token.noConfusion
  | char => exact Token.noConfusion

/-- The only reason to refuse a pattern is a class that is never closed. Every other pattern
compiles, and no run of stars in it is taken for components. -/
theorem compile_normalize_eq_error_iff (raw : String) :
    ((∃ e, compile (normalize raw.toList) = .error e) ↔ LeavesOpen raw.toList) ∧
    (compile (normalize raw.toList) = .error .unclosedClass ↔ LeavesOpen raw.toList) ∧
    ((∃ ts, compile (normalize raw.toList) = .ok ts ∧ .anyComponents ∉ ts) ↔
      ¬ LeavesOpen raw.toList) := by
  rw [compile, read_normalize, ← read_eq_none_iff]
  cases hr : Piece.read raw.toList with
  | none => simp [tokensOf]
  | some ps =>
    have hts : Token.anyComponents ∉ ps.map fun p => p.rewritten.token := by
      intro hm
      obtain ⟨p, -, hp⟩ := List.mem_map.1 hm
      exact p.rewritten.token_ne_anyComponents hp
    have hok : ¬ some ps = none := Option.some_ne_none ps
    refine ⟨iff_of_false ?_ hok, iff_of_false ?_ hok, iff_of_true ⟨_, rfl, hts⟩ hok⟩
    · intro h
      obtain ⟨e, he⟩ := h
      cases he
    · intro h
      cases h

example : LeavesOpen "**[!]".toList :=
  .skip (by decide) (.skip (by decide) (.here (by decide)))

end FleetSelect.Glob
