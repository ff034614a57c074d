import FleetSelect.Proofs.Resolution

namespace FleetSelect

open FleetSelect.Text

variable {i : Index} {raw e : String} {c : Char} {cs r : List Char} {st : Strategy} {s : Selector}
  {f : Failure}

def IsExpression (raw e : String) : Prop :=
  e ≠ "" ∧ raw = "~" ++ e

theorem expression?_eq_some_iff : expression? cs = some r ↔ r ≠ [] ∧ cs = '~' :: r := by
  unfold expression?
  split
  · next c r' =>
    rw [Option.some.injEq, List.cons.injEq, and_iff_right rfl]
    constructor
    · rintro rfl
      exact ⟨List.cons_ne_nil c r', rfl⟩
    · rintro ⟨_, rfl⟩
      rfl
  · next hcs =>
    refine iff_of_false nofun ?_
    rintro ⟨hr, rfl⟩
    obtain ⟨c, r', rfl⟩ := List.exists_cons_of_ne_nil hr
    exact hcs c r' rfl

theorem isExpression_iff : IsExpression raw e ↔ expression? raw.toList = some e.toList := by
  rw [expression?_eq_some_iff, IsExpression, ne_eq, ← String.toList_eq_nil_iff, ← String.toList_inj,
    String.toList_append]
  rfl

theorem isExpression_ofList (h : expression? raw.toList = some r) :
    IsExpression raw (String.ofList r) := by
  rw [isExpression_iff, String.toList_ofList, h]

theorem expression?_eq_none_iff : expression? raw.toList = none ↔ ∀ e, ¬ IsExpression raw e := by
  constructor
  · intro h e he
    rw [isExpression_iff, h] at he
    cases he
  · intro h
    cases hr : expression? raw.toList with
    | none => rfl
    | some r => exact absurd (isExpression_ofList hr) (h _)

theorem isWildcard_iff : isWildcard c = true ↔ c = '*' ∨ c = '?' ∨ c = '[' ∨ c = ']' := by
  simp only [isWildcard, Bool.or_eq_true, beq_iff_eq, or_assoc]

theorem isWildcard_eq_false {p : Char → Prop} (hstar : ¬ p '*') (hone : ¬ p '?') (hopen : ¬ p '[')
    (hclose : ¬ p ']') (hc : p c) : isWildcard c = false := by
  rw [Bool.eq_false_iff, ne_eq, isWildcard_iff]
  rintro (rfl | rfl | rfl | rfl)
  · exact hstar hc
  · exact hone hc
  · exact hopen hc
  · exact hclose hc

namespace Index

/-- What the text is, with what takes precedence over it. -/
inductive Means (i : Index) (raw : String) : Strategy → Prop
  | group (hg : i.hasGroup raw = true) : Means i raw .group
  | regex {e : String} (hg : i.hasGroup raw = false) (he : IsExpression raw e) :
      Means i raw (.regex e)
  | glob (hg : i.hasGroup raw = false) (he : ∀ e, ¬ IsExpression raw e)
      (hw : ∃ c ∈ raw.toList, isWildcard c = true) : Means i raw .glob
  | host (hg : i.hasGroup raw = false) (he : ∀ e, ¬ IsExpression raw e)
      (hw : ∀ c ∈ raw.toList, isWildcard c = false) : Means i raw .host

theorem means_strategy (i : Index) (raw : String) : i.Means raw (i.strategy raw) := by
  unfold strategy
  cases hg : i.hasGroup raw with
  | true => exact .group hg
  | false =>
    rw [if_neg Bool.false_ne_true]
    split
    · next he => exact .regex hg (isExpression_ofList he)
    · next he =>
      cases hw : raw.toList.any isWildcard with
      | true => exact .glob hg (expression?_eq_none_iff.1 he) (List.any_eq_true.1 hw)
      | false => exact .host hg (expression?_eq_none_iff.1 he) (by simpa using hw)

theorem Means.strategy_eq (h : i.Means raw st) : i.strategy raw = st := by
  unfold strategy
  cases h with
  | group hg => rw [if_pos hg]
  | regex hg he =>
    rw [hg, if_neg Bool.false_ne_true, isExpression_iff.1 he]
    simp only [String.ofList_toList]
  | glob hg he hw =>
    rw [hg, if_neg Bool.false_ne_true, expression?_eq_none_iff.2 he]
    exact if_pos (List.any_eq_true.2 hw)
  | host hg he hw =>
    rw [hg, if_neg Bool.false_ne_true, expression?_eq_none_iff.2 he]
    exact if_neg (by simpa using hw)

theorem strategy_eq_iff : i.strategy raw = st ↔ i.Means raw st := by
  constructor
  · rintro rfl
    exact means_strategy i raw
  · exact Means.strategy_eq

theorem strategy_eq_regex_iff (hg : i.hasGroup raw = false) :
    i.strategy raw = .regex e ↔ expression? raw.toList = some e.toList := by
  rw [strategy_eq_iff, ← isExpression_iff]
  constructor
  · intro h
    cases h with
    | regex _ he => exact he
  · exact .regex hg

theorem strategy_eq_glob_iff (hg : i.hasGroup raw = false) : i.strategy raw = .glob ↔
    expression? raw.toList = none ∧ ∃ c ∈ raw.toList, isWildcard c = true := by
  rw [strategy_eq_iff, expression?_eq_none_iff]
  constructor
  · intro h
    cases h with
    | glob _ he hw => exact ⟨he, hw⟩
  · exact fun h => .glob hg h.1 h.2

theorem strategy_eq_host_iff (hg : i.hasGroup raw = false) : i.strategy raw = .host ↔
    expression? raw.toList = none ∧ ∀ c ∈ raw.toList, isWildcard c = false := by
  rw [strategy_eq_iff, expression?_eq_none_iff]
  constructor
  · intro h
    cases h with
    | host _ he hw => exact ⟨he, hw⟩
  · exact fun h => .host hg h.1 h.2

theorem result_expandBy_eq_error_iff : (i.expandBy raw st).result = .error f ↔
    ∃ e reason, st = .regex e ∧ Regex.compile e = .error reason ∧
      f = .regexCompile e reason.message := by
  cases st with
  | group => exact iff_of_false nofun nofun
  | host => exact iff_of_false nofun nofun
  | glob =>
    cases hc : Glob.compile (Glob.normalize raw.toList) with
    | ok ts =>
      rw [result_expandBy_glob hc]
      exact iff_of_false nofun nofun
    | error reason =>
      rw [result_expandBy_glob_of_error hc]
      exact iff_of_false nofun nofun
  | regex e =>
    cases hc : Regex.compile e with
    | ok r =>
      rw [result_expandBy_regex hc]
      refine iff_of_false nofun ?_
      rintro ⟨e', reason, he', he, _⟩
      obtain rfl := Strategy.regex.inj he'
      rw [hc] at he
      cases he
    | error reason =>
      rw [result_expandBy_regex_of_error hc, Except.error.injEq]
      constructor
      · rintro rfl
        exact ⟨e, reason, rfl, hc, rfl⟩
      · rintro ⟨e', reason', he', he, rfl⟩
        obtain rfl := Strategy.regex.inj he'
        rw [hc] at he
        obtain rfl := Except.error.inj he
        rfl

theorem failure?_eq_some_iff (hs : trim s.raw ≠ "") : i.failure? s = some f ↔
    ∃ e reason, i.Means (trim s.raw) (.regex e) ∧ Regex.compile e = .error reason ∧
      f = .regexCompile e reason.message := by
  rw [failure?_eq_some, result_expand_of_raw hs, result_expandBy_eq_error_iff]
  simp only [strategy_eq_iff]

end Index

end FleetSelect
