import FleetSelect.Proofs.Selection

namespace FleetSelect

open FleetSelect.Text

/-- An index has the groups of another one, and of the hosts there those with a property. -/
structure Index.Corresponds (i j : Index) (q : String → Bool) : Prop where
  hasGroup_eq : ∀ g, i.hasGroup g = j.hasGroup g
  allHosts_eq : i.allHosts = j.allHosts.filter q
  expandGroup_eq : ∀ g, i.expandGroup g = (j.expandGroup g).filter q

namespace Index

variable {i j : Index} {q : String → Bool} {h : String}

theorem mem_expandHost {raw : String} :
    h ∈ (if raw ∈ i.hosts then HostSet.singleton raw else .empty) ↔ h = raw ∧ h ∈ i.allHosts := by
  rw [mem_allHosts]
  split
  · next hr =>
    rw [HostSet.mem_singleton]
    constructor
    · rintro ⟨rfl, hb⟩
      exact ⟨rfl, hr, hb⟩
    · rintro ⟨rfl, _, hb⟩
      exact ⟨rfl, hb⟩
  · next hr =>
    refine iff_of_false (HostSet.not_mem_empty h) ?_
    rintro ⟨rfl, hh, _⟩
    exact hr hh

namespace Corresponds

theorem strategy_eq (hc : i.Corresponds j q) (raw : String) : i.strategy raw = j.strategy raw := by
  rw [strategy, strategy, hc.hasGroup_eq]

theorem expandMatching_eq (hc : i.Corresponds j q) (p : String → Bool) :
    i.expandMatching p = (j.expandMatching p).filter q := by
  apply HostSet.ext
  intro h
  simp only [mem_expandMatching, HostSet.mem_filter, hc.hasGroup_eq, hc.allHosts_eq,
    hc.expandGroup_eq]
  constructor
  · rintro (⟨⟨hh, hq⟩, hp⟩ | ⟨g, hg, hp, hm, hq⟩)
    · exact ⟨.inl ⟨hh, hp⟩, hq⟩
    · exact ⟨.inr ⟨g, hg, hp, hm⟩, hq⟩
  · rintro ⟨⟨hh, hp⟩ | ⟨g, hg, hp, hm⟩, hq⟩
    · exact .inl ⟨⟨hh, hq⟩, hp⟩
    · exact .inr ⟨g, hg, hp, hm, hq⟩

theorem expandHost_eq (hc : i.Corresponds j q) (raw : String) :
    (if raw ∈ i.hosts then HostSet.singleton raw else .empty) =
      (if raw ∈ j.hosts then HostSet.singleton raw else .empty).filter q := by
  apply HostSet.ext
  intro h
  rw [HostSet.mem_filter, mem_expandHost, mem_expandHost, hc.allHosts_eq, HostSet.mem_filter,
    and_assoc]

theorem result_expandBy (hc : i.Corresponds j q) (raw : String) (st : Strategy) :
    (i.expandBy raw st).result = (j.expandBy raw st).result.map (·.filter q) := by
  cases st with
  | group => exact congrArg Except.ok (hc.expandGroup_eq raw)
  | regex e =>
    cases hr : Regex.compile e with
    | ok r =>
      rw [result_expandBy_regex hr, result_expandBy_regex hr]
      exact congrArg Except.ok (hc.expandMatching_eq _)
    | error reason =>
      rw [result_expandBy_regex_of_error hr, result_expandBy_regex_of_error hr]
      rfl
  | glob =>
    cases ht : Glob.compile (Glob.normalize raw.toList) with
    | ok ts =>
      rw [result_expandBy_glob ht, result_expandBy_glob ht]
      exact congrArg Except.ok (hc.expandMatching_eq _)
    | error reason =>
      rw [result_expandBy_glob_of_error ht, result_expandBy_glob_of_error ht]
      rfl
  | host => exact congrArg Except.ok (hc.expandHost_eq raw)

theorem result_expand_eq (hc : i.Corresponds j q) (s : Selector) :
    (i.expand s).result = (j.expand s).result.map (·.filter q) := by
  by_cases hb : trim s.raw = ""
  · rw [result_expand_of_blank hb, result_expand_of_blank hb]
    rfl
  · rw [result_expand_of_raw hb, result_expand_of_raw hb, hc.strategy_eq]
    exact hc.result_expandBy _ _

theorem failure?_eq (hc : i.Corresponds j q) (s : Selector) : i.failure? s = j.failure? s := by
  rw [failure?, failure?, hc.result_expand_eq]
  cases (j.expand s).result with
  | ok t => rfl
  | error e => rfl

theorem designated_eq (hc : i.Corresponds j q) (s : Selector) :
    i.designated s = (j.designated s).filter q := by
  rw [designated, designated, hc.result_expand_eq]
  cases (j.expand s).result with
  | ok t => rfl
  | error e => rfl

theorem selection_eq (hc : i.Corresponds j q) (l : Limit) :
    i.selection l = (j.selection l).filter q := by
  apply HostSet.ext
  intro h
  simp only [HostSet.mem_filter, mem_selection, hc.allHosts_eq, hc.designated_eq]
  cases q h with
  | true => simp only [and_true]
  | false =>
    -- A host that is not seen is not selected, whatever the other index says.
    simp only [Bool.false_eq_true, and_false, exists_false, ite_self, false_and]

end Corresponds

end Index

end FleetSelect
