import FleetSelect.Proofs.HostSet
import FleetSelect.Proofs.Strategy

namespace FleetSelect

open FleetSelect.Text

namespace Index

variable {i : Index} {p : String → Bool} {t : HostSet} {raw h : String} {st : Strategy}
  {x : Except Failure HostSet} {order : List String}

/-- The hosts with a property, and then the hosts of one group with it after the other. -/
def gather (i : Index) (p : String → Bool) (order : List String) : HostSet :=
  (order.filter p).foldl (fun t g => t.union (i.expandGroup g)) (i.allHosts.filter p)

theorem mem_gather : h ∈ i.gather p order ↔
    (h ∈ i.allHosts ∧ p h = true) ∨ ∃ g ∈ order, p g = true ∧ h ∈ i.expandGroup g := by
  simp only [gather, HostSet.mem_foldl_union, HostSet.mem_filter, List.mem_filter, and_assoc]

/-- A set holds the hosts with a property and the hosts of all groups with it. No group is in it as
such, and it comes out in whatever order the groups are taken, even if some are taken twice. -/
structure Gathers (i : Index) (p : String → Bool) (t : HostSet) : Prop where
  mem_iff : ∀ h, h ∈ t ↔ (h ∈ i.allHosts ∧ p h = true) ∨
    ∃ g, i.hasGroup g = true ∧ p g = true ∧ h ∈ i.expandGroup g
  gather_eq : ∀ order, (∀ g, g ∈ order ↔ i.hasGroup g = true) → i.gather p order = t

theorem gathers_expandMatching (i : Index) (p : String → Bool) :
    i.Gathers p (i.expandMatching p) where
  mem_iff _ := mem_expandMatching
  gather_eq order ho := by
    apply HostSet.ext
    intro h
    simp only [mem_gather, mem_expandMatching, ho]

theorem Gathers.eq (ht : i.Gathers p t) : i.expandMatching p = t := by
  apply HostSet.ext
  intro h
  rw [mem_expandMatching, ht.mem_iff]

/-- What a text yields, with what takes precedence over it. -/
inductive Yields (i : Index) (raw : String) : Except Failure HostSet → Prop
  | group (hg : i.hasGroup raw = true) : Yields i raw (.ok (i.expandGroup raw))
  | regex {e : String} {r : Regex} {t : HostSet} (hm : i.Means raw (.regex e))
      (hr : Regex.compile e = .ok r) (ht : i.Gathers (fun name => r.isMatch name.toList) t) :
      Yields i raw (.ok t)
  | brokenRegex {e : String} {reason : Regex.Error} (hm : i.Means raw (.regex e))
      (hr : Regex.compile e = .error reason) :
      Yields i raw (.error (.regexCompile e reason.message))
  | glob {ts : List Glob.Token} {t : HostSet} (hm : i.Means raw .glob)
      (hts : Glob.compile (Glob.normalize raw.toList) = .ok ts)
      (ht : i.Gathers (fun name => Glob.isMatch ts name.toList) t) : Yields i raw (.ok t)
  | brokenGlob {reason : Glob.Error} (hm : i.Means raw .glob)
      (hts : Glob.compile (Glob.normalize raw.toList) = .error reason) : Yields i raw (.ok .empty)
  | host (hm : i.Means raw .host) (hh : raw ∈ i.hosts) : Yields i raw (.ok (.singleton raw))
  | unknown (hm : i.Means raw .host) (hh : raw ∉ i.hosts) : Yields i raw (.ok .empty)

theorem Means.yields (hm : i.Means raw st) : i.Yields raw (i.expandBy raw st).result := by
  cases st with
  | group =>
    cases hm with
    | group hg => exact .group hg
  | regex e =>
    cases hr : Regex.compile e with
    | ok r =>
      rw [result_expandBy_regex hr]
      exact .regex hm hr (gathers_expandMatching i _)
    | error reason =>
      rw [result_expandBy_regex_of_error hr]
      exact .brokenRegex hm hr
  | glob =>
    cases hts : Glob.compile (Glob.normalize raw.toList) with
    | ok ts =>
      rw [result_expandBy_glob hts]
      exact .glob hm hts (gathers_expandMatching i _)
    | error reason =>
      rw [result_expandBy_glob_of_error hts]
      exact .brokenGlob hm hts
  | host =>
    rw [result_expandBy_host]
    split
    · next hh => exact .host hm hh
    · next hh => exact .unknown hm hh

theorem Yields.result_eq (hy : i.Yields raw x) :
    (i.expandBy raw (i.strategy raw)).result = x := by
  cases hy with
  | group hg => rw [(Means.group hg).strategy_eq, result_expandBy_group]
  | regex hm hr ht => rw [hm.strategy_eq, result_expandBy_regex hr, ht.eq]
  | brokenRegex hm hr => rw [hm.strategy_eq, result_expandBy_regex_of_error hr]
  | glob hm hts ht => rw [hm.strategy_eq, result_expandBy_glob hts, ht.eq]
  | brokenGlob hm hts => rw [hm.strategy_eq, result_expandBy_glob_of_error hts]
  | host hm hh => rw [hm.strategy_eq, result_expandBy_host, if_pos hh]
  | unknown hm hh => rw [hm.strategy_eq, result_expandBy_host, if_neg hh]

/-- A text that is no group but an expression that cannot be compiled yields a failure, and any
other text yields hosts; selectors with the same text yield the same. -/
theorem result_expand_eq_iff (i : Index) (s : Selector) (hs : trim s.raw ≠ "") :
    (∀ x, (i.expand s).result = x ↔ i.Yields (trim s.raw) x) ∧
    ∀ t : Selector, trim t.raw = trim s.raw → (i.expand t).result = (i.expand s).result := by
  constructor
  · intro x
    rw [result_expand_of_raw hs]
    constructor
    · rintro rfl
      exact (means_strategy i (trim s.raw)).yields
    · exact Yields.result_eq
  · intro t ht
    rw [result_expand_of_raw hs, result_expand_of_raw (ht ▸ hs), ht]

theorem result_expand_group_before_expression :
    let i := ofInventory ⟨["web1", "db1"], [⟨"~web", ["db1"], ["all"]⟩, ⟨"all", ["web1 "], []⟩]⟩
    let s : Selector := ⟨" ~web ", .regex, .exclude⟩
    trim s.raw ≠ "" ∧ (i.expand s).result = .ok (.ofList ["db1", "web1"]) ∧
      (i.expand ⟨"~web", .host, .union⟩).result = (i.expand s).result := by
  intro i s
  have hs : trim s.raw ≠ "" := by decide
  have hg : i.hasGroup (trim s.raw) = true := by decide
  have hall : i.expandGroup (trim s.raw) = .ofList ["db1", "web1"] := by decide
  have hresult := result_expand_eq_iff i s hs
  exact ⟨hs, (hresult.1 _).2 (hall ▸ .group hg), hresult.2 ⟨"~web", .host, .union⟩ (by decide)⟩

/-- An expression that cannot be compiled is not taken for the name of a host that is not there. -/
theorem result_expand_broken_expression :
    let i := ofInventory ⟨[], []⟩
    let s : Selector := ⟨"~(", .regex, .union⟩
    i.hasGroup (trim s.raw) = false ∧ Regex.compile "(" = .error .unclosedGroup ∧
      (trim s.raw).toList.any isWildcard = false ∧ trim s.raw ∉ i.hosts ∧
      (i.expand s).result ≠ .ok .empty := by
  refine ⟨by decide, rfl, rfl, by decide, ?_⟩
  exact nofun

end Index

end FleetSelect
