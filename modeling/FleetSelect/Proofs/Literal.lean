import FleetSelect.Proofs.Glob.Literal
import FleetSelect.Proofs.Strategy

namespace FleetSelect.Index

open FleetSelect.Text

variable {i : Index} {raw : String}

/-- The host with a name, if it is declared. -/
def hostNamed (i : Index) (raw : String) : HostSet :=
  if raw ∈ i.hosts then .singleton raw else .empty

theorem mem_hostNamed {h : String} (hraw : raw ≠ "") :
    h ∈ i.hostNamed raw ↔ h = raw ∧ raw ∈ i.hosts := by
  unfold hostNamed
  split
  · next hm => simp [hraw, hm]
  · next hm => simp [hm]

theorem expandMatching_eq_hostNamed {p : String → Bool} (hp : ∀ name, p name = true ↔ name = raw)
    (hraw : raw ≠ "") (hg : i.hasGroup raw = false) : i.expandMatching p = i.hostNamed raw := by
  apply HostSet.ext
  intro h
  rw [mem_expandMatching, mem_hostNamed hraw, mem_allHosts, hp]
  constructor
  · intro h
    rcases h with ⟨⟨hm, _⟩, rfl⟩ | ⟨g, hg', hpg, _⟩
    · exact ⟨rfl, hm⟩
    · rw [(hp g).1 hpg, hg] at hg'
      cases hg'
  · rintro ⟨rfl, hm⟩
    exact .inl ⟨⟨hm, hraw⟩, rfl⟩

theorem strategy_of_isLiteral (hl : Glob.IsLiteral raw.toList) (hg : i.hasGroup raw = false)
    (he : ∀ e, ¬ IsExpression raw e) :
    i.strategy raw = if ']' ∈ raw.toList then .glob else .host := by
  rw [← expression?_eq_none_iff] at he
  split
  · next hm => exact (strategy_eq_glob_iff hg).2 ⟨he, _, hm, rfl⟩
  · next hm =>
    refine (strategy_eq_host_iff hg).2 ⟨he, fun c => isWildcard_eq_false ?_ ?_ ?_ hm⟩
    · exact fun h => (hl _ h).1 rfl
    · exact fun h => (hl _ h).2.1 rfl
    · exact fun h => (hl _ h).2.2 rfl

/-- A text without a star, a question mark or a class names the host that it spells. A closing
bracket has it resolved as a pattern, and as a pattern every such text would name the same host. -/
theorem result_expand_literal (i : Index) (s : Selector) (hs : trim s.raw ≠ "")
    (hl : Glob.IsLiteral (trim s.raw).toList) (hg : i.hasGroup (trim s.raw) = false)
    (he : ∀ e, ¬ IsExpression (trim s.raw) e) :
    (i.expand s).result = .ok (i.hostNamed (trim s.raw)) ∧
    i.strategy (trim s.raw) = (if ']' ∈ (trim s.raw).toList then .glob else .host) ∧
    ∃ ts, Glob.compile (Glob.normalize (trim s.raw).toList) = .ok ts ∧
      (∀ name : String, Glob.isMatch ts name.toList = true ↔ name = trim s.raw) ∧
      i.expandMatching (fun name => Glob.isMatch ts name.toList) = i.hostNamed (trim s.raw) := by
  have hstrategy := strategy_of_isLiteral hl hg he
  have hts := Glob.compile_of_isLiteral hl
  have hmatch (name : String) :
      Glob.isMatch ((trim s.raw).toList.map .char) name.toList = true ↔ name = trim s.raw := by
    rw [Glob.isMatch_map_char, String.toList_inj]
  have hexpand := expandMatching_eq_hostNamed hmatch hs hg
  refine ⟨?_, hstrategy, _, hts, hmatch, hexpand⟩
  rw [result_expand_of_raw hs, hstrategy]
  split
  · rw [result_expandBy_glob hts, hexpand]
  · rw [result_expandBy_host, hostNamed]

theorem result_expand_literal_bracket :
    let i := ofInventory ⟨["web", " ./Web] "], [⟨"all", ["web", "./Web]"], []⟩]⟩
    let s : Selector := ⟨"./Web] ", .unknown, .exclude⟩
    trim s.raw ≠ "" ∧ Glob.IsLiteral (trim s.raw).toList ∧ i.hasGroup (trim s.raw) = false ∧
      (∀ e, ¬ IsExpression (trim s.raw) e) ∧ i.strategy (trim s.raw) = .glob ∧
      (i.expand s).result = .ok (.ofList ["./Web]"]) := by
  intro i s
  have hs : trim s.raw ≠ "" := by decide
  have hl : Glob.IsLiteral (trim s.raw).toList := by decide
  have hg : i.hasGroup (trim s.raw) = false := by decide
  have he : ∀ e, ¬ IsExpression (trim s.raw) e := expression?_eq_none_iff.1 (by decide)
  have hm : ']' ∈ (trim s.raw).toList := by decide
  have hhost : i.hostNamed (trim s.raw) = .ofList ["./Web]"] := by decide
  obtain ⟨hresult, hstrategy, -⟩ := result_expand_literal i s hs hl hg he
  rw [if_pos hm] at hstrategy
  rw [hhost] at hresult
  exact ⟨hs, hl, hg, he, hstrategy, hresult⟩

end FleetSelect.Index
