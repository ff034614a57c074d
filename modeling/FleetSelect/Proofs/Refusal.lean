import FleetSelect.Proofs.Grouping
import FleetSelect.Proofs.Limit.Expressible
import FleetSelect.Proofs.Strategy

namespace FleetSelect

open FleetSelect.Text

variable {inv : Inventory} {pattern : String} {s : Selector} {f : Failure}

/-- A selector holds an expression that cannot be compiled, and no group has its text as a name. -/
def Inventory.Refuses (inv : Inventory) (s : Selector) (f : Failure) : Prop :=
  ¬ inv.HasGroup s.raw ∧ ∃ e reason, IsExpression s.raw e ∧ Regex.compile e = .error reason ∧
    f = .regexCompile e reason.message

/-- How resolving a pattern fails. -/
inductive Inventory.Fails (inv : Inventory) (pattern : String) : Failure → Prop
  | emptyPattern (h : (parse pattern).result = .error .emptyPattern) :
      Fails inv pattern .emptyPattern
  | refused {before after : List Selector} {s : Selector} {f : Failure}
      (h : evaluationOrder (selectorsOf pattern) = before ++ s :: after)
      (hbefore : ∀ t ∈ before, ∀ f, ¬ inv.Refuses t f) (hs : inv.Refuses s f) :
      Fails inv pattern f

theorem failure?_ofInventory_eq_some_iff (hs : s.IsExpressible) :
    (Index.ofInventory inv).failure? s = some f ↔ inv.Refuses s f := by
  rw [Index.failure?_eq_some_iff (hs.trim_raw.symm ▸ hs.raw_ne_empty), hs.trim_raw,
    Inventory.Refuses, ← Index.hasGroup_ofInventory]
  constructor
  · rintro ⟨e, reason, hm, hc, rfl⟩
    cases hm with
    | regex hg he => exact ⟨Bool.eq_false_iff.1 hg, e, reason, he, hc, rfl⟩
  · rintro ⟨hg, e, reason, he, hc, rfl⟩
    exact ⟨e, reason, .regex (Bool.eq_false_iff.2 hg) he, hc, rfl⟩

theorem failure?_ofInventory_eq_none_iff (hs : s.IsExpressible) :
    (Index.ofInventory inv).failure? s = none ↔ ∀ f, ¬ inv.Refuses s f := by
  simp only [Option.eq_none_iff_forall_ne_some, ne_eq, failure?_ofInventory_eq_some_iff hs]

theorem findSome?_failure?_eq_some_iff {ss : List Selector} (hss : ∀ s ∈ ss, s.IsExpressible) :
    ss.findSome? (Index.ofInventory inv).failure? = some f ↔ ∃ before s after,
      ss = before ++ s :: after ∧ (∀ t ∈ before, ∀ f, ¬ inv.Refuses t f) ∧ inv.Refuses s f := by
  rw [List.findSome?_eq_some_iff]
  constructor
  · rintro ⟨before, s, after, rfl, hs, hbefore⟩
    refine ⟨before, s, after, rfl, fun t ht => ?_, ?_⟩
    · have ht' := hss t (List.mem_append_left _ ht)
      exact (failure?_ofInventory_eq_none_iff ht').1 (hbefore t ht)
    · have hs' := hss s (List.mem_append_right _ (List.mem_cons_self ..))
      exact (failure?_ofInventory_eq_some_iff hs').1 hs
  · rintro ⟨before, s, after, rfl, hbefore, hs⟩
    refine ⟨before, s, after, rfl, ?_, fun t ht => ?_⟩
    · have hs' := hss s (List.mem_append_right _ (List.mem_cons_self ..))
      exact (failure?_ofInventory_eq_some_iff hs').2 hs
    · have ht' := hss t (List.mem_append_left _ ht)
      exact (failure?_ofInventory_eq_none_iff ht').2 (hbefore t ht)

theorem result_parse_eq_error_iff : (parse pattern).result = .error f ↔
    selectorsOf pattern = [] ∧ f = .emptyPattern := by
  rw [result_parse, ← ofPattern?_eq_none_iff]
  cases Limit.ofPattern? pattern with
  | none => rw [Except.error.injEq, and_iff_right rfl, eq_comm]
  | some l => exact iff_of_false nofun nofun

theorem Inventory.fails_iff_of_ofPattern? {l : Limit} (hl : Limit.ofPattern? pattern = some l) :
    inv.Fails pattern f ↔ l.toList.findSome? (Index.ofInventory inv).failure? = some f := by
  obtain ⟨hne, rfl⟩ := ofPattern?_eq_some_iff.1 hl
  have hexp : ∀ s ∈ evaluationOrder (selectorsOf pattern), s.IsExpressible :=
    fun s hs => isExpressible_of_mem_selectorsOf (mem_evaluationOrder.1 hs)
  rw [Limit.toList_ofList, findSome?_failure?_eq_some_iff hexp]
  constructor
  · intro h
    cases h with
    | emptyPattern h => exact absurd (result_parse_eq_error_iff.1 h).1 hne
    | @refused before after s _ h hbefore hs => exact ⟨before, s, after, h, hbefore, hs⟩
  · rintro ⟨before, s, after, h, hbefore, hs⟩
    exact .refused h hbefore hs

theorem Inventory.fails_iff_of_ofPattern?_eq_none (hl : Limit.ofPattern? pattern = none) :
    inv.Fails pattern f ↔ f = .emptyPattern := by
  have hnil := ofPattern?_eq_none_iff.1 hl
  constructor
  · intro h
    cases h with
    | emptyPattern => rfl
    | refused h =>
      rw [hnil] at h
      cases (List.append_eq_nil_iff.1 h.symm).2
  · rintro rfl
    exact .emptyPattern (result_parse_eq_error_iff.2 ⟨hnil, rfl⟩)

theorem map_eq_error_iff {α β : Type} {x : Except Failure α} {g : α → β} :
    x.map g = .error f ↔ x = .error f := by
  cases x with
  | ok a => exact iff_of_false nofun nofun
  | error e => rw [Except.map, Except.error.injEq, Except.error.injEq]

theorem result_run_eq_error_iff : (run pattern inv).result = .error f ↔ inv.Fails pattern f := by
  rw [result_run]
  cases hl : Limit.ofPattern? pattern with
  | none => rw [Inventory.fails_iff_of_ofPattern?_eq_none hl, Except.error.injEq, eq_comm]
  | some l => rw [Inventory.fails_iff_of_ofPattern? hl, map_eq_error_iff, outcome_eq_error]

theorem selectHosts_eq_map (pattern : String) (inv : Inventory) :
    selectHosts pattern inv = (run pattern inv).result.map fun r => r.2.toList := by
  unfold selectHosts
  cases (run pattern inv).result with
  | ok r => rfl
  | error e => rfl

theorem selectReport_eq_map (pattern : String) (inv : Inventory) (explain : Bool) :
    selectReport pattern inv explain = (run pattern inv).result.map fun r =>
      { pattern, matched := r.2.toList, limit := if explain then some r.1 else none } := by
  unfold selectReport
  cases (run pattern inv).result with
  | ok r => rfl
  | error e => rfl

theorem Inventory.Fails.of_hasGroup {other : Inventory}
    (h : ∀ g, other.HasGroup g ↔ inv.HasGroup g) (hf : inv.Fails pattern f) :
    other.Fails pattern f := by
  have hrefuses (s : Selector) (f : Failure) : other.Refuses s f ↔ inv.Refuses s f :=
    and_congr_left' (not_congr (h s.raw))
  cases hf with
  | emptyPattern hp => exact .emptyPattern hp
  | refused ho hbefore hs =>
    refine .refused ho (fun t ht f => ?_) ((hrefuses _ _).2 hs)
    rw [hrefuses]
    exact hbefore t ht f

/-- A selection and a report fail with the same failure, which only the pattern and the names of
the groups decide. -/
theorem selectHosts_eq_error_iff (pattern : String) (inv : Inventory) (explain : Bool)
    (f : Failure) :
    (selectHosts pattern inv = .error f ↔ inv.Fails pattern f) ∧
    (selectReport pattern inv explain = .error f ↔ inv.Fails pattern f) ∧
    ∀ other : Inventory, (∀ g, other.HasGroup g ↔ inv.HasGroup g) →
      (selectHosts pattern other = .error f ↔ selectHosts pattern inv = .error f) ∧
      (selectReport pattern other explain = .error f ↔
        selectReport pattern inv explain = .error f) := by
  have hselect (inv : Inventory) : selectHosts pattern inv = .error f ↔ inv.Fails pattern f := by
    rw [selectHosts_eq_map, map_eq_error_iff, result_run_eq_error_iff]
  have hreport (inv : Inventory) :
      selectReport pattern inv explain = .error f ↔ inv.Fails pattern f := by
    rw [selectReport_eq_map, map_eq_error_iff, result_run_eq_error_iff]
  refine ⟨hselect inv, hreport inv, fun other h => ?_⟩
  have hother : other.Fails pattern f ↔ inv.Fails pattern f :=
    ⟨.of_hasGroup fun g => (h g).symm, .of_hasGroup h⟩
  exact ⟨(hselect other).trans (hother.trans (hselect inv).symm),
    (hreport other).trans (hother.trans (hreport inv).symm)⟩

theorem selectHosts_eq_error_of_unclosed_group :
    let inv : Inventory := ⟨["web1"], [⟨"prod", ["web1"], []⟩]⟩
    let other : Inventory := ⟨[], [⟨" prod ", [], ["x"]⟩, ⟨" ", ["web1"], []⟩]⟩
    let f : Failure := .regexCompile "(" (Regex.Error.message .unclosedGroup)
    (∀ g, other.HasGroup g ↔ inv.HasGroup g) ∧ selectHosts "&none:!~(:prod:!~[" inv = .error f ∧
      selectHosts "&none:!~(:prod:!~[" other = .error f := by
  intro inv other f
  have hgroups : ∀ g, other.HasGroup g ↔ inv.HasGroup g := by
    intro g
    have hpadded : trim " prod " = "prod" := by decide
    have hplain : trim "prod" = "prod" := by decide
    have hblank : trim " " = "" := by decide
    simp only [Inventory.HasGroup, inv, other, List.mem_cons, List.not_mem_nil, or_false,
      exists_eq_or_imp, exists_eq_left, hpadded, hplain, hblank]
    exact and_congr_right fun hg => or_iff_left (Ne.symm hg)
  have hinv : selectHosts "&none:!~(:prod:!~[" inv = .error f := rfl
  have hboth := selectHosts_eq_error_iff "&none:!~(:prod:!~[" inv false f
  exact ⟨hgroups, hinv, ((hboth.2.2 other hgroups).1).2 hinv⟩

end FleetSelect
