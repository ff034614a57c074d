import FleetSelect.Glob.Pattern
import FleetSelect.Proofs.Glob.Shell

namespace FleetSelect.Glob

variable {ts : List Token}

theorem row_cons (t : Token) (c : Char) (cs : List Char) (b : Bool) (row : List Bool) :
    ∃ b', t.row (c :: cs) (b :: row) = b' :: t.row cs row := by
  cases t with
  | char => exact ⟨_, rfl⟩
  | anyChar => exact ⟨_, rfl⟩
  | anyRun => exact ⟨_, rfl⟩
  | anyComponents => exact ⟨_, rfl⟩
  | oneOf => exact ⟨_, rfl⟩
  | noneOf => exact ⟨_, rfl⟩

theorem rows_cons (c : Char) (cs : List Char) (ts : List Token) :
    rows (c :: cs) ts = isMatch ts (c :: cs) :: rows cs ts := by
  have h : ∃ b, rows (c :: cs) ts = b :: rows cs ts := by
    induction ts with
    | nil => exact ⟨false, rfl⟩
    | cons t ts ih =>
      obtain ⟨b, hb⟩ := ih
      obtain ⟨b', hb'⟩ := row_cons t c cs b (rows cs ts)
      exact ⟨b', (congrArg (fun row => t.row (c :: cs) row) hb).trans hb'⟩
  obtain ⟨b, hb⟩ := h
  rw [isMatch, hb, List.headD_cons]

theorem isMatch_nil (cs : List Char) : isMatch [] cs = true ↔ cs = [] := by
  cases cs with
  | nil => exact iff_of_true rfl rfl
  | cons c cs => simp [isMatch, rows, List.replicate_succ]

theorem isMatch_of_rowOne {t : Token} {p : Char → Bool}
    (ht : ∀ cs row, t.row cs row = rowOne p cs row) (cs : List Char) :
    isMatch (t :: ts) cs = true ↔ ∃ c v, cs = c :: v ∧ p c = true ∧ isMatch ts v = true := by
  have hrows : rows cs (t :: ts) = rowOne p cs (rows cs ts) := ht cs (rows cs ts)
  rw [isMatch, hrows]
  cases cs with
  | nil => simp [rowOne]
  | cons c cs =>
    rw [rows_cons, rowOne, List.headD_cons, Bool.and_eq_true]
    constructor
    · intro h
      obtain ⟨hp, hm⟩ := h
      exact ⟨c, cs, rfl, hp, hm⟩
    · intro h
      obtain ⟨c', v, he, hp, hm⟩ := h
      cases he
      exact ⟨hp, hm⟩

theorem isMatch_anyRun_nil : isMatch (.anyRun :: ts) [] = isMatch ts [] := by
  change (rowRun [] (rows [] ts)).headD false = (rows [] ts).headD false
  rw [rowRun]
  exact fun _ _ _ _ h => by cases h

theorem isMatch_anyRun_cons (c : Char) (cs : List Char) :
    isMatch (.anyRun :: ts) (c :: cs) =
      (isMatch ts (c :: cs) || (c != '/' && isMatch (.anyRun :: ts) cs)) := by
  change (rowRun (c :: cs) (rows (c :: cs) ts)).headD false = _
  rw [rows_cons]
  rfl

theorem isMatch_anyRun (cs : List Char) :
    isMatch (.anyRun :: ts) cs = true ↔
      ∃ u v, cs = u ++ v ∧ (∀ c ∈ u, c ≠ '/') ∧ isMatch ts v = true := by
  induction cs with
  | nil =>
    rw [isMatch_anyRun_nil]
    constructor
    · intro hm
      exact ⟨[], [], rfl, fun _ hc => absurd hc List.not_mem_nil, hm⟩
    · intro h
      obtain ⟨u, v, he, _, hm⟩ := h
      rw [(List.append_eq_nil_iff.1 he.symm).2] at hm
      exact hm
  | cons c cs ih =>
    rw [isMatch_anyRun_cons, Bool.or_eq_true, Bool.and_eq_true, bne_iff_ne, ih]
    constructor
    · intro h
      rcases h with hm | ⟨hc, u, v, rfl, hu, hm⟩
      · exact ⟨[], c :: cs, rfl, fun _ hc => absurd hc List.not_mem_nil, hm⟩
      · exact ⟨c :: u, v, rfl, List.forall_mem_cons.2 ⟨hc, hu⟩, hm⟩
    · intro h
      obtain ⟨u, v, he, hu, hm⟩ := h
      cases u with
      | nil =>
        rw [List.nil_append] at he
        exact .inl (he ▸ hm)
      | cons d u =>
        cases he
        obtain ⟨hd, hu⟩ := List.forall_mem_cons.1 hu
        exact .inr ⟨hd, u, v, rfl, hu, hm⟩

theorem any_contains_iff (c : Char) (ms : List Char) :
    ((Member.ofList ms).any fun m => m.contains c) = true ↔ Listed c ms := by
  fun_induction Listed c ms with
  | case1 a b r ih =>
    rw [Member.ofList, List.any_cons, Bool.or_eq_true, ih]
    simp [Member.contains]
  | case2 a r hr ih =>
    rw [Member.ofList, List.any_cons, Bool.or_eq_true, ih]
    · simp [Member.contains]
    · exact hr
  | case3 => simp [Member.ofList]

def Piece.token : Piece → Token
  | .run => .anyRun
  | .anyChar => .anyChar
  | .oneOf ms => .oneOf (Member.ofList ms)
  | .noneOf ms => .noneOf (Member.ofList ms)
  | .char c => .char c

/-- The matcher finds exactly the texts that consist of parts for the pieces. -/
theorem isMatch_map_token (ps : List Piece) (cs : List Char) :
    isMatch (ps.map Piece.token) cs = true ↔ Matches ps cs := by
  induction ps generalizing cs with
  | nil => exact isMatch_nil cs
  | cons p ps ih =>
    have hany (c : Char) (ms : List Char) :
        ((Member.ofList ms).any fun m => m.contains c) = false ↔ ¬ Listed c ms := by
      rw [← any_contains_iff, Bool.not_eq_true]
    cases p with
    | run =>
      rw [List.map_cons, Piece.token, isMatch_anyRun]
      simp only [Matches, Piece.Fits, ih]
    | anyChar =>
      rw [List.map_cons, Piece.token, isMatch_of_rowOne fun _ _ => rfl]
      simp only [Matches, Piece.Fits, ih, bne_iff_ne]
    | oneOf ms =>
      rw [List.map_cons, Piece.token, isMatch_of_rowOne fun _ _ => rfl]
      simp only [Matches, Piece.Fits, ih, Bool.and_eq_true, bne_iff_ne, any_contains_iff]
    | noneOf ms =>
      rw [List.map_cons, Piece.token, isMatch_of_rowOne fun _ _ => rfl]
      simp only [Matches, Piece.Fits, ih, Bool.and_eq_true, bne_iff_ne, Bool.not_eq_true', hany]
    | char d =>
      rw [List.map_cons, Piece.token, isMatch_of_rowOne fun _ _ => rfl]
      simp only [Matches, Piece.Fits, ih, beq_iff_eq]

end FleetSelect.Glob
