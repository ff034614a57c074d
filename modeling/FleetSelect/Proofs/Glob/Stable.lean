import FleetSelect.Proofs.Glob.Normal

namespace FleetSelect.Glob

variable {ctx : Context} {c : Char} {t : List Char} {inside : Bool}

/-- Whether the next character is in a class, from whether this one is. The first `]` closes a
class, and all brackets that stand before it are members. -/
def insideAfter (inside : Bool) (c : Char) : Bool :=
  if inside then c ≠ ']' else c = '['

/-- Outside of classes no star stands before a star, and no bracket that opens a class before
`^`. -/
def IsNormalFrom (inside : Bool) (t : List Char) : Prop :=
  ∀ u c v, t = u ++ c :: v → u.foldl insideAfter inside = false →
    (c = '*' → v.head? ≠ some '*') ∧ (c = '[' → v.head? ≠ some '^')

def IsNormal (t : List Char) : Prop :=
  IsNormalFrom false t

theorem isNormalFrom_nil (inside : Bool) : IsNormalFrom inside [] := by
  intro u c v he
  exact absurd he.symm (List.append_ne_nil_of_right_ne_nil u (List.cons_ne_nil c v))

theorem isNormalFrom_cons : IsNormalFrom inside (c :: t) ↔
    (inside = false → (c = '*' → t.head? ≠ some '*') ∧ (c = '[' → t.head? ≠ some '^')) ∧
      IsNormalFrom (insideAfter inside c) t := by
  constructor
  · intro h
    have htail : IsNormalFrom (insideAfter inside c) t := by
      intro u d v he
      exact h (c :: u) d v (congrArg (c :: ·) he)
    exact ⟨h [] c t rfl, htail⟩
  · intro h u d v he
    obtain ⟨hhead, htail⟩ := h
    cases u with
    | nil =>
      cases he
      exact hhead
    | cons c u =>
      cases he
      exact htail u d v rfl

theorem isNormalFrom_inside :
    IsNormalFrom true (c :: t) ↔ IsNormalFrom (decide (c ≠ ']')) t := by
  rw [isNormalFrom_cons, insideAfter, if_pos rfl]
  simp

theorem isNormalFrom_outside : IsNormalFrom false (c :: t) ↔
    (c = '*' → t.head? ≠ some '*') ∧ (c = '[' → t.head? ≠ some '^') ∧
      IsNormalFrom (decide (c = '[')) t := by
  rw [isNormalFrom_cons, insideAfter, if_neg Bool.false_ne_true, forall_prop_of_true rfl, and_assoc]

def Context.isInside : Context → Bool
  | .members => true
  | _ => false

theorem Context.isInside_eq_false (hctx : ctx ≠ .members) : ctx.isInside = false := by
  cases ctx with
  | plain => rfl
  | star => rfl
  | members => exact absurd rfl hctx

theorem Context.isInside_ite (c : Char) :
    (if c = ']' then Context.plain else .members).isInside = decide (c ≠ ']') := by
  by_cases hc : c = ']'
  · rw [if_pos hc, decide_eq_false (not_not_intro hc)]
    rfl
  · rw [if_neg hc, decide_eq_true hc]
    rfl

theorem head?_normalizeFrom_star (t : List Char) : (normalizeFrom .star t).head? ≠ some '*' := by
  have hstar : Context.star ≠ .members := Context.noConfusion
  induction t with
  | nil => simp
  | cons c t ih =>
    by_cases hc : c = '*'
    · rw [hc, normalizeFrom]
      exact ih
    · have ht : (c :: t).head? ≠ some '*' := by simpa using hc
      rw [(normalizeFrom_of_head? hstar ht).1]
      exact head?_normalize ht

theorem isNormalFrom_normalizeFrom (ctx : Context) (t : List Char) :
    IsNormalFrom ctx.isInside (normalizeFrom ctx t) := by
  fun_induction normalizeFrom ctx t with
  | case1 ctx => exact isNormalFrom_nil _
  | case2 c t ih =>
    rw [Context.isInside_ite] at ih
    exact isNormalFrom_inside.2 ih
  | case3 t ih => exact ih
  | case4 ctx t h1 h2 ih =>
    rw [Context.isInside_eq_false h1, isNormalFrom_outside]
    exact ⟨fun _ => head?_normalizeFrom_star t, by simp, ih⟩
  | case5 ctx t h1 ih =>
    rw [Context.isInside_eq_false h1, isNormalFrom_outside]
    exact ⟨by simp, by simp, isNormalFrom_inside.2 ih⟩
  | case6 ctx t h1 h2 ih =>
    rw [Context.isInside_eq_false h1, isNormalFrom_outside]
    refine ⟨by simp, fun _ => ?_, ih⟩
    rw [head?_normalizeFrom_members]
    intro ht
    obtain ⟨r, rfl⟩ := List.head?_eq_some_iff.1 ht
    exact h2 r rfl
  | case7 ctx c t h1 h2 h3 h4 h5 ih =>
    rw [Context.isInside_eq_false h1, isNormalFrom_outside, decide_eq_false h5]
    exact ⟨fun hc => absurd hc h3, fun hc => absurd hc h5, ih⟩

theorem normalizeFrom_of_isNormalFrom (ht : IsNormalFrom ctx.isInside t)
    (hs : ctx = .star → t.head? ≠ some '*') : normalizeFrom ctx t = t := by
  -- `ht` does not see the star before `t`, and a second star is the one character left out there.
  fun_induction normalizeFrom ctx t with
  | case1 ctx => rfl
  | case2 c t ih =>
    rw [Context.isInside_ite] at ih
    rw [ih (isNormalFrom_inside.1 ht) (by split <;> simp)]
  | case3 t ih => exact absurd rfl (hs rfl)
  | case4 ctx t h1 h2 ih =>
    rw [Context.isInside_eq_false h1, isNormalFrom_outside] at ht
    rw [ih ht.2.2 fun _ => ht.1 rfl]
  | case5 ctx t h1 ih =>
    rw [Context.isInside_eq_false h1, isNormalFrom_outside] at ht
    exact absurd rfl (ht.2.1 rfl)
  | case6 ctx t h1 h2 ih =>
    rw [Context.isInside_eq_false h1, isNormalFrom_outside] at ht
    rw [ih ht.2.2 Context.noConfusion]
  | case7 ctx c t h1 h2 h3 h4 h5 ih =>
    rw [Context.isInside_eq_false h1, isNormalFrom_outside, decide_eq_false h5] at ht
    rw [ih ht.2.2 Context.noConfusion]

theorem isNormal_normalize (t : List Char) : IsNormal (normalize t) :=
  isNormalFrom_normalizeFrom .plain t

theorem IsNormal.normalize_eq (ht : IsNormal t) : normalize t = t :=
  normalizeFrom_of_isNormalFrom ht Context.noConfusion

/-- Normalizing a pattern twice is the same as normalizing it once: the result is in normal form,
and the patterns in normal form are exactly those that the normalization leaves as they are. -/
theorem normalize_normalize (t : List Char) :
    normalize (normalize t) = normalize t ∧ IsNormal (normalize t) ∧
      (normalize t = t ↔ IsNormal t) := by
  refine ⟨(isNormal_normalize t).normalize_eq, isNormal_normalize t, ?_, IsNormal.normalize_eq⟩
  intro ht
  exact ht ▸ isNormal_normalize t

example : normalize "*[!**[^]*[]*[!^".toList = "*[!**[^]*[]*[!^".toList := rfl

end FleetSelect.Glob
