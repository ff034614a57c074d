import FleetSelect.Proofs.Limit.Expressible
import FleetSelect.Proofs.Selection

namespace FleetSelect

open FleetSelect.Text

variable {i : Index} {inv : Inventory} {ss ss' : List Selector} {s : Selector} {h : String}
  {p q raw : String} {op : Operator} {hs : List String}

/-- Some selectors select a host, whatever their order. -/
structure Index.Selects (i : Index) (ss : List Selector) (h : String) : Prop where
  start : ((∀ s ∈ ss, s.op ≠ .union) ∧ h ∈ i.allHosts) ∨
    ∃ s ∈ ss, s.op = .union ∧ h ∈ i.designated s
  kept : ∀ s ∈ ss, s.op = .intersect → h ∈ i.designated s
  spared : ∀ s ∈ ss, s.op = .exclude → h ∉ i.designated s

theorem Index.mem_selection_ofList : h ∈ i.selection (.ofList ss) ↔ i.Selects ss h := by
  have hstart : (if (Limit.ofList ss).unions = [] then h ∈ i.allHosts
      else ∃ s ∈ (Limit.ofList ss).unions, h ∈ i.designated s) ↔
      ((∀ s ∈ ss, s.op ≠ .union) ∧ h ∈ i.allHosts) ∨
        ∃ s ∈ ss, s.op = .union ∧ h ∈ i.designated s := by
    simp only [Limit.unions_ofList, List.filter_eq_nil_iff, List.mem_filter, decide_eq_true_eq,
      and_assoc]
    split
    · next hu =>
      have hnone : ¬ ∃ s ∈ ss, s.op = .union ∧ h ∈ i.designated s := by
        rintro ⟨s, hs, hop, -⟩
        exact hu s hs hop
      simp only [hnone, or_false]
      exact (and_iff_right hu).symm
    · next hu =>
      simp only [ne_eq, hu, false_and, false_or]
  rw [mem_selection, hstart]
  simp only [Limit.intersections_ofList, Limit.exclusions_ofList, List.mem_filter,
    decide_eq_true_eq, and_imp]
  constructor
  · rintro ⟨hs, hk, hl⟩
    exact ⟨hs, hk, hl⟩
  · intro hs
    exact ⟨hs.start, hs.kept, hs.spared⟩

theorem selectHosts_eq_ok_iff_selects : selectHosts p inv = .ok hs ↔
    (selectorsOf p ≠ [] ∧ ∀ s ∈ selectorsOf p, (Index.ofInventory inv).failure? s = none) ∧
      ((Index.ofInventory inv).selection (.ofList (selectorsOf p))).toList = hs := by
  rw [selectHosts_eq]
  cases hl : Limit.ofPattern? p with
  | none =>
    rw [ofPattern?_eq_none_iff.1 hl]
    exact iff_of_false nofun fun h => h.1.1 rfl
  | some l =>
    obtain ⟨hne, rfl⟩ := ofPattern?_eq_some_iff.1 hl
    rw [outcome_map_eq_ok, List.findSome?_eq_none_iff, and_iff_right hne]
    simp only [Limit.toList_ofList, mem_evaluationOrder]

theorem resolves_iff : (∃ hs, selectHosts p inv = .ok hs) ↔
    selectorsOf p ≠ [] ∧ ∀ s ∈ selectorsOf p, (Index.ofInventory inv).failure? s = none := by
  simp only [selectHosts_eq_ok_iff_selects, exists_and_left, exists_eq', and_true]

theorem mem_selectHosts (hp : selectHosts p inv = .ok hs) :
    h ∈ hs ↔ (Index.ofInventory inv).Selects (selectorsOf p) h := by
  obtain ⟨-, rfl⟩ := selectHosts_eq_ok_iff_selects.1 hp
  rw [← HostSet.mem_def, Index.mem_selection_ofList]

theorem pairwise_selectHosts (hp : selectHosts p inv = .ok hs) : hs.Pairwise Precedes := by
  obtain ⟨-, rfl⟩ := selectHosts_eq_ok_iff_selects.1 hp
  exact HostSet.sorted _

theorem resolves_singleton_iff (hp : selectorsOf p = [s]) :
    (∃ hs, selectHosts p inv = .ok hs) ↔ (Index.ofInventory inv).failure? s = none := by
  rw [resolves_iff, hp, List.forall_mem_singleton]
  exact and_iff_right (List.cons_ne_nil s [])

theorem selectHosts_eq_ok (hp : ∃ ks, selectHosts p inv = .ok ks) (hsorted : hs.Pairwise Precedes)
    (hmem : ∀ h, h ∈ hs ↔ (Index.ofInventory inv).Selects (selectorsOf p) h) :
    selectHosts p inv = .ok hs := by
  obtain ⟨ks, hk⟩ := hp
  rw [hk]
  apply congrArg Except.ok
  apply HostSet.eq_of_pairwise (pairwise_selectHosts hk) hsorted
  intro h
  rw [mem_selectHosts hk, hmem]

theorem Index.selects_iff_of_union (hne : ss ≠ []) (hss : ∀ s ∈ ss, s.op = .union) :
    i.Selects ss h ↔ ∃ s ∈ ss, h ∈ i.designated s := by
  constructor
  · intro hsel
    rcases hsel.start with ⟨hnone, _⟩ | ⟨s, hs, _, hm⟩
    · obtain ⟨s, hs⟩ := List.exists_mem_of_ne_nil ss hne
      exact absurd (hss s hs) (hnone s hs)
    · exact ⟨s, hs, hm⟩
  · intro hm
    obtain ⟨s, hs, hm⟩ := hm
    refine ⟨.inr ⟨s, hs, hss s hs, hm⟩, ?_, ?_⟩
    · intro t ht hop
      cases (hss t ht).symm.trans hop
    · intro t ht hop
      cases (hss t ht).symm.trans hop

theorem exists_error_iff {α : Type} {x : Except Failure α} :
    (∃ f, x = .error f) ↔ ¬ ∃ a, x = .ok a := by
  cases x with
  | ok a => simp
  | error f => simp

theorem Index.Selects.of_mem_iff (hss : ∀ s, s ∈ ss ↔ s ∈ ss') (hs : i.Selects ss h) :
    i.Selects ss' h where
  start := by simpa only [hss] using hs.start
  kept s hm := hs.kept s ((hss s).2 hm)
  spared s hm := hs.spared s ((hss s).2 hm)

theorem Limit.Agrees.selection_eq {l l' : Limit} (ha : l.Agrees l') (i : Index) :
    i.selection l = i.selection l' := by
  simp only [Index.selection, Index.kept, Index.start, ha.unions, ha.intersections, ha.exclusions]

/-- A pattern has a selector with a given operator and text. -/
def Writes (pattern : String) (op : Operator) (raw : String) : Prop :=
  ∃ l, (parse pattern).result = .ok l ∧ ∃ s ∈ l.toList, s.op = op ∧ s.raw = raw

theorem writes_iff : Writes p op raw ↔ ∃ s ∈ selectorsOf p, s.op = op ∧ s.raw = raw := by
  constructor
  · rintro ⟨l, hl, s, hs, hop⟩
    obtain ⟨-, rfl⟩ := result_parse_eq_ok_iff.1 hl
    rw [Limit.toList_ofList, mem_evaluationOrder] at hs
    exact ⟨s, hs, hop⟩
  · rintro ⟨s, hs, hop⟩
    refine ⟨_, result_parse_eq_ok_iff.2 ⟨List.ne_nil_of_mem hs, rfl⟩, s, ?_, hop⟩
    rwa [Limit.toList_ofList, mem_evaluationOrder]

theorem mem_selectorsOf_iff_of_writes_iff (hw : ∀ op raw, Writes p op raw ↔ Writes q op raw) :
    s ∈ selectorsOf p ↔ s ∈ selectorsOf q := by
  have himp {p q : String} (hw : ∀ op raw, Writes p op raw ↔ Writes q op raw)
      (hs : s ∈ selectorsOf p) : s ∈ selectorsOf q := by
    have hwrites : Writes q s.op s.raw := (hw _ _).1 (writes_iff.2 ⟨s, hs, rfl, rfl⟩)
    obtain ⟨t, ht, hop, hraw⟩ := writes_iff.1 hwrites
    have hkind : t.kind = s.kind := by
      rw [(isExpressible_of_mem_selectorsOf ht).kind_eq, hraw,
        (isExpressible_of_mem_selectorsOf hs).kind_eq]
    have hst : t = s := by
      cases s
      cases t
      simp_all only
    exact hst ▸ ht
  exact ⟨himp hw, himp fun op raw => (hw op raw).symm⟩

/-- Patterns with the same selectors, in whatever order and however often, fail together and select
the same hosts. If they evaluate them in the same order, they fail with the same failure. -/
theorem selectHosts_of_writes_iff (inv : Inventory)
    (hw : ∀ op raw, Writes p op raw ↔ Writes q op raw) :
    ((∃ f, selectHosts p inv = .error f) ↔ ∃ f, selectHosts q inv = .error f) ∧
    (∀ hs hs', selectHosts p inv = .ok hs → selectHosts q inv = .ok hs' → hs = hs') ∧
    ∀ l l', (parse p).result = .ok l → (parse q).result = .ok l' → l.Agrees l' →
      selectHosts p inv = selectHosts q inv := by
  have hsel (s : Selector) : s ∈ selectorsOf p ↔ s ∈ selectorsOf q :=
    mem_selectorsOf_iff_of_writes_iff hw
  refine ⟨?_, ?_, ?_⟩
  · rw [exists_error_iff, exists_error_iff, resolves_iff, resolves_iff]
    simp only [ne_eq, List.eq_nil_iff_forall_not_mem, hsel]
  · intro hs hs' hp hq
    obtain ⟨-, rfl⟩ := selectHosts_eq_ok_iff_selects.1 hp
    obtain ⟨-, rfl⟩ := selectHosts_eq_ok_iff_selects.1 hq
    apply congrArg HostSet.toList
    apply HostSet.ext
    intro h
    rw [Index.mem_selection_ofList, Index.mem_selection_ofList]
    exact ⟨.of_mem_iff hsel, .of_mem_iff fun s => (hsel s).symm⟩
  · intro l l' hl hl' ha
    have hp : Limit.ofPattern? p = some l :=
      ofPattern?_eq_some_iff.2 (result_parse_eq_ok_iff.1 hl)
    have hq : Limit.ofPattern? q = some l' :=
      ofPattern?_eq_some_iff.2 (result_parse_eq_ok_iff.1 hl')
    rw [selectHosts_eq, selectHosts_eq, hp, hq]
    simp only [ha.toList_eq, ha.selection_eq]

theorem selectHosts_of_writes_iff_repeated :
    let inv : Inventory := ⟨["web1", "web2", "db1"], [⟨"db", ["db1"], []⟩]⟩
    (∀ op raw, Writes "~^web,!~2$:~^web,db" op raw ↔ Writes "!~2$:db,~^web:!~2$" op raw) ∧
      selectHosts "~^web,!~2$:~^web,db" inv = .ok ["db1", "web1"] ∧
      selectHosts "!~2$:db,~^web:!~2$" inv = .ok ["db1", "web1"] := by
  intro inv
  have hp : selectorsOf "~^web,!~2$:~^web,db" = [⟨"~^web", .regex, .union⟩,
    ⟨"~2$", .regex, .exclude⟩, ⟨"~^web", .regex, .union⟩, ⟨"db", .group, .union⟩] := rfl
  have hq : selectorsOf "!~2$:db,~^web:!~2$" = [⟨"~2$", .regex, .exclude⟩, ⟨"db", .group, .union⟩,
    ⟨"~^web", .regex, .union⟩, ⟨"~2$", .regex, .exclude⟩] := rfl
  have hw : ∀ op raw, Writes "~^web,!~2$:~^web,db" op raw ↔ Writes "!~2$:db,~^web:!~2$" op raw := by
    intro op raw
    rw [writes_iff, writes_iff, hp, hq]
    simp only [List.mem_cons, List.not_mem_nil, or_false, exists_eq_or_imp, exists_eq_left]
    simp only [or_left_comm, or_comm, or_self_left, or_self]
  have hok : selectHosts "~^web,!~2$:~^web,db" inv = .ok ["db1", "web1"] := rfl
  obtain ⟨hfail, hsame, -⟩ := selectHosts_of_writes_iff inv hw
  refine ⟨hw, hok, ?_⟩
  cases hres : selectHosts "!~2$:db,~^web:!~2$" inv with
  | ok hs => rw [hsame _ hs hok hres]
  | error f =>
    obtain ⟨f', hf'⟩ := hfail.2 ⟨f, hres⟩
    rw [hok] at hf'
    cases hf'

end FleetSelect
