import FleetSelect.Glob.Normalize
import FleetSelect.Proofs.Glob.Matching

namespace FleetSelect.Glob

variable {ctx : Context} {c m : Char} {t ms r : List Char}

theorem normalizeFrom_close (ctx : Context) (r : List Char) :
    normalizeFrom ctx (']' :: r) = ']' :: normalize r := by
  cases ctx with
  | plain => simp [normalize]
  | star => simp [normalize]
  | members => simp [normalize]

theorem normalizeFrom_append (hms : ']' ∉ ms) :
    normalizeFrom ctx (ms ++ ']' :: r) = normalizeFrom ctx ms ++ ']' :: normalize r := by
  fun_induction normalizeFrom ctx ms with
  | case1 ctx => exact normalizeFrom_close ctx r
  | case2 c t ih =>
    rw [List.cons_append, normalizeFrom, ih (List.not_mem_of_not_mem_cons hms), List.cons_append]
  | case3 t ih =>
    rw [List.cons_append, normalizeFrom, ih (List.not_mem_of_not_mem_cons hms)]
  | case4 ctx t h1 h2 ih =>
    rw [List.cons_append, normalizeFrom.eq_4 _ _ h1 h2, ih (List.not_mem_of_not_mem_cons hms),
      List.cons_append]
  | case5 ctx t h1 ih =>
    have ht := List.not_mem_of_not_mem_cons (List.not_mem_of_not_mem_cons hms)
    rw [List.cons_append, List.cons_append, normalizeFrom.eq_5 _ _ h1, ih ht, List.cons_append,
      List.cons_append]
  | case6 ctx t h1 h2 ih =>
    have ht (r' : List Char) (he : t ++ ']' :: r = '^' :: r') : False := by
      cases t with
      | nil => cases he
      | cons d t =>
        cases he
        exact h2 t rfl
    rw [List.cons_append, normalizeFrom.eq_6 _ _ ht h1, ih (List.not_mem_of_not_mem_cons hms),
      List.cons_append]
  | case7 ctx c t h1 h2 h3 h4 h5 ih =>
    rw [List.cons_append, normalizeFrom.eq_7 _ _ _ h3 (fun _ hc _ => h5 hc) h5 h1 h2,
      ih (List.not_mem_of_not_mem_cons hms), List.cons_append]

theorem not_mem_normalizeFrom (ht : ']' ∉ t) : ']' ∉ normalizeFrom ctx t := by
  fun_induction normalizeFrom ctx t with
  | case1 => exact List.not_mem_nil
  | case3 t ih => exact ih (List.not_mem_of_not_mem_cons ht)
  | case5 ctx t h1 ih =>
    have ht' := List.not_mem_of_not_mem_cons (List.not_mem_of_not_mem_cons ht)
    simp [ih ht']
  | case2 | case4 | case6 | case7 =>
    rename_i ih
    exact List.not_mem_cons_of_ne_of_not_mem (List.ne_of_not_mem_cons ht)
      (ih (List.not_mem_of_not_mem_cons ht))

theorem normalizeFrom_members (hms : ']' ∉ ms) : normalizeFrom .members ms = ms := by
  induction ms with
  | nil => rfl
  | cons m ms ih =>
    have hm : m ≠ ']' := fun he => hms (he ▸ List.mem_cons_self ..)
    rw [normalizeFrom, if_neg hm, ih (List.not_mem_of_not_mem_cons hms)]

/-- The members of a class in the normal form. -/
def rewriteMembers : List Char → List Char
  | [] => []
  | m :: ms => m :: if m = ']' then normalize ms else ms

def Piece.rewritten : Piece → Piece
  | .oneOf ms => .oneOf (rewriteMembers ms)
  | .noneOf ms => .noneOf (rewriteMembers ms)
  | p => p

theorem cutClass_eq_some (hms : ']' ∉ ms) :
    cutClass (m :: (ms ++ ']' :: r)) = some (m :: ms, r) := by
  have hp : ∀ c ∈ ms, decide (c ≠ ']') = true := by
    intro c hc
    exact decide_eq_true fun he => hms (he ▸ hc)
  rw [cutClass, if_pos (by simp), List.takeWhile_append_of_pos hp, List.dropWhile_append_of_pos hp]
  simp

theorem cutClass_eq_none (ht : ']' ∉ t) : cutClass (m :: t) = none := by
  rw [cutClass, if_neg ht]

theorem cutClass_of_readMembers {make : List Char → Piece} {p : Piece}
    (h : readMembers make t = some (p, r)) :
    ∃ ms, p = make ms ∧
      cutClass (normalizeFrom .members t) = some (rewriteMembers ms, normalize r) := by
  obtain ⟨m, ms, rfl, hms, rfl⟩ := readMembers_eq_some h
  refine ⟨m :: ms, rfl, ?_⟩
  rw [normalizeFrom, normalizeFrom_append hms, cutClass_eq_some (not_mem_normalizeFrom hms),
    rewriteMembers]
  split
  · rfl
  · rw [normalizeFrom_members hms]

theorem cutClass_of_readMembers_eq_none {make : List Char → Piece}
    (h : readMembers make t = none) : cutClass (normalizeFrom .members t) = none := by
  cases t with
  | nil => rfl
  | cons m t =>
    have ht := not_mem_of_cutMembers_eq_none (Option.map_eq_none_iff.1 h)
    rw [normalizeFrom, cutClass_eq_none (not_mem_normalizeFrom ht)]

def tokensOf : Option (List Piece) → Except Error (List Token)
  | some ps => .ok (ps.map fun p => p.rewritten.token)
  | none => .error .unclosedClass

theorem tokensOf_map (p : Piece) (ps : Option (List Piece)) :
    tokensOf (ps.map (p :: ·)) = (p.rewritten.token :: ·) <$> tokensOf ps := by
  cases ps with
  | none => rfl
  | some ps => rfl

theorem normalizeFrom_other (hctx : ctx ≠ .members) (hs : c ≠ '*') (hb : c ≠ '[') :
    normalizeFrom ctx (c :: t) = c :: normalize t :=
  normalizeFrom.eq_7 ctx c t hs (fun _ hc _ => hb hc) hb hctx fun _ => hs

theorem normalizeFrom_caret (hctx : ctx ≠ .members) :
    normalizeFrom ctx ('[' :: '^' :: t) = '[' :: '!' :: normalizeFrom .members t :=
  normalizeFrom.eq_5 ctx t hctx

theorem normalizeFrom_open (hctx : ctx ≠ .members) (ht : t.head? ≠ some '^') :
    normalizeFrom ctx ('[' :: t) = '[' :: normalizeFrom .members t :=
  normalizeFrom.eq_6 ctx t (fun _ he => ht (congrArg List.head? he)) hctx

theorem normalizeFrom_of_head? (hctx : ctx ≠ .members) (ht : t.head? ≠ some '*') :
    normalizeFrom ctx t = normalize t ∧ (normalize t).head? = t.head? := by
  have hplain : Context.plain ≠ .members := Context.noConfusion
  unfold normalize
  cases t with
  | nil => exact ⟨by rw [normalizeFrom, normalizeFrom], by rw [normalizeFrom]⟩
  | cons c t =>
    have hs : c ≠ '*' := fun he => ht (congrArg some he)
    by_cases hb : c = '['
    · subst hb
      by_cases hc : t.head? = some '^'
      · obtain ⟨r, rfl⟩ := List.head?_eq_some_iff.1 hc
        rw [normalizeFrom_caret hctx, normalizeFrom_caret hplain]
        exact ⟨rfl, rfl⟩
      · rw [normalizeFrom_open hctx hc, normalizeFrom_open hplain hc]
        exact ⟨rfl, rfl⟩
    · rw [normalizeFrom_other hctx hs hb, normalizeFrom_other hplain hs hb]
      exact ⟨rfl, rfl⟩

theorem normalize_star (t : List Char) : normalize ('*' :: t) = '*' :: normalizeFrom .star t := by
  simp [normalize]

theorem normalize_star_of_head? (ht : t.head? ≠ some '*') :
    normalize ('*' :: t) = '*' :: normalize t := by
  have hstar : Context.star ≠ .members := Context.noConfusion
  rw [normalize_star, (normalizeFrom_of_head? hstar ht).1]

theorem normalize_star_star (ht : t.head? = some '*') : normalize ('*' :: t) = normalize t := by
  obtain ⟨r, rfl⟩ := List.head?_eq_some_iff.1 ht
  rw [normalize_star, normalize_star, normalizeFrom]

theorem head?_normalize (ht : t.head? ≠ some '*') : (normalize t).head? ≠ some '*' := by
  have hplain : Context.plain ≠ .members := Context.noConfusion
  rwa [(normalizeFrom_of_head? hplain ht).2]

namespace Token

variable {start : Bool}

theorem read_star (ht : t.head? ≠ some '*') :
    read start ('*' :: t) = (.anyRun :: ·) <$> read false t := by
  have ht' (r : List Char) (he : t = '*' :: r) : False := ht (congrArg List.head? he)
  exact read.eq_7 start t (fun _ he => ht' _ he) ht'

theorem read_char (hs : c ≠ '*') (hq : c ≠ '?') (hb : c ≠ '[') :
    read start (c :: t) = (.char c :: ·) <$> read (c == '/') t :=
  read.eq_10 start c t hq (fun _ h _ => hs h) (fun _ h _ => hs h) hs (fun _ h _ => hb h) hb

theorem read_noneOf : read start ('[' :: '!' :: t) = match cutClass t with
    | some (ms, r) => (.noneOf (Member.ofList ms) :: ·) <$> read false r
    | none => .error .unclosedClass := by
  rw [read]
  split
  · next hc => rw [hc]
  · next hc => rw [hc]

theorem read_oneOf (ht : t.head? ≠ some '!') : read start ('[' :: t) = match cutClass t with
    | some (ms, r) => (.oneOf (Member.ofList ms) :: ·) <$> read false r
    | none => .error .unclosedClass := by
  rw [read.eq_9 start t fun _ he => ht (congrArg List.head? he)]
  split
  · next hc => rw [hc]
  · next hc => rw [hc]

end Token

theorem head?_normalizeFrom_members (t : List Char) :
    (normalizeFrom .members t).head? = t.head? := by
  cases t with
  | nil => rfl
  | cons c t => rw [normalizeFrom, List.head?_cons, List.head?_cons]

theorem normalize_class (t : List Char) :
    (∃ t', readClass t = readMembers .noneOf t' ∧
      normalize ('[' :: t) = '[' :: '!' :: normalizeFrom .members t') ∨
    readClass t = readMembers .oneOf t ∧ t.head? ≠ some '!' ∧
      normalize ('[' :: t) = '[' :: normalizeFrom .members t := by
  have hplain : Context.plain ≠ .members := Context.noConfusion
  unfold readClass normalize
  split
  · next t =>
    refine .inl ⟨t, rfl, ?_⟩
    rw [normalizeFrom_open hplain (by simp), normalizeFrom, if_neg (by decide)]
  · next t => exact .inl ⟨t, rfl, normalizeFrom_caret hplain⟩
  · next h1 h2 =>
    have hn {d : Char} (h : ∀ r, t = d :: r → False) : t.head? ≠ some d := by
      intro he
      obtain ⟨r, rfl⟩ := List.head?_eq_some_iff.1 he
      exact h r rfl
    exact .inr ⟨rfl, hn h1, normalizeFrom_open hplain (hn h2)⟩

theorem read_class (start : Bool) (t : List Char) :
    Token.read start (normalize ('[' :: t)) = match readClass t with
      | some (p, r) => (p.rewritten.token :: ·) <$> Token.read false (normalize r)
      | none => .error .unclosedClass := by
  rcases normalize_class t with ⟨t', hr, hn⟩ | ⟨hr, hs, hn⟩
  · rw [hr, hn, Token.read_noneOf]
    cases h : readMembers .noneOf t' with
    | none => rw [cutClass_of_readMembers_eq_none h]
    | some q =>
      obtain ⟨p, r⟩ := q
      obtain ⟨ms, rfl, hc⟩ := cutClass_of_readMembers h
      rw [hc]
      rfl
  · rw [hr, hn, Token.read_oneOf (head?_normalizeFrom_members t ▸ hs)]
    cases h : readMembers .oneOf t with
    | none => rw [cutClass_of_readMembers_eq_none h]
    | some q =>
      obtain ⟨p, r⟩ := q
      obtain ⟨ms, rfl, hc⟩ := cutClass_of_readMembers h
      rw [hc]
      rfl

/-- The normal form of a pattern has the pieces of the pattern with the members of classes
rewritten, and it is refused exactly if a class is not closed. -/
theorem read_normalize (start : Bool) (raw : List Char) :
    Token.read start (normalize raw) = tokensOf (Piece.read raw) := by
  have hplain : Context.plain ≠ .members := Context.noConfusion
  fun_induction Piece.read raw generalizing start with
  | case1 =>
    rw [normalize, normalizeFrom, Token.read]
    rfl
  | case2 t ht ih => rw [normalize_star_star ht, ih]
  | case3 t ht ih =>
    rw [normalize_star_of_head? ht, Token.read_star (head?_normalize ht), ih, tokensOf_map]
    rfl
  | case4 t ih =>
    rw [normalize, normalizeFrom_other hplain (by decide) (by decide), Token.read, ih, tokensOf_map]
    rfl
  | case5 t p r h ih =>
    rw [read_class, h]
    simp only [ih, tokensOf_map]
  | case6 t h =>
    rw [read_class, h]
    rfl
  | case7 c t h1 h2 h3 ih =>
    rw [normalize, normalizeFrom_other hplain h1 h3, Token.read_char h1 h2 h3, ih, tokensOf_map]
    rfl

end FleetSelect.Glob
