import FleetSelect.Proofs.Expansion
import FleetSelect.Proofs.GroupExpansion
import FleetSelect.Proofs.Grouping
import FleetSelect.Proofs.Reordering

namespace FleetSelect

open FleetSelect.Text

variable {inv : Inventory} {ss : List Selector} {s : Selector} {t : HostSet} {hs : List String}
  {p h n raw : String}

/-- A host that the inventory declares or, where it declares none, a member of one of its groups. -/
inductive Inventory.Offers (inv : Inventory) (h : String) : Prop
  | host (hd : inv.Declares h) : Offers inv h
  | member {n : String} (hnone : ∀ x, ¬ inv.Declares x) (hm : inv.Lists n h) : Offers inv h

theorem Inventory.Offers.isName (ho : inv.Offers h) : IsName h := by
  cases ho with
  | host hd => exact isName_of_mem_names (mem_names.2 hd)
  | member _ hm =>
    obtain ⟨_, g, _, _, hg⟩ := hm
    exact isName_of_mem_names hg

theorem Inventory.Offers.declares (ho : inv.Offers h) (hd : ∃ x, inv.Declares x) :
    inv.Declares h := by
  cases ho with
  | host hh => exact hh
  | member hnone _ =>
    obtain ⟨x, hx⟩ := hd
    exact absurd hx (hnone x)

namespace Index

theorem offers_of_mem_expandGroup (hm : h ∈ (ofInventory inv).expandGroup n) : inv.Offers h := by
  obtain ⟨-, ⟨g, -, hg⟩, hall⟩ := mem_expandGroup.1 hm
  by_cases hh : (ofInventory inv).hosts = []
  · have hnone : ∀ x, ¬ inv.Declares x := fun x hx => hosts_ofInventory_ne_nil.2 ⟨x, hx⟩ hh
    exact .member hnone (mem_members_ofInventory.1 hg)
  · exact .host (mem_allHosts_ofInventory.1 (hall hh))

theorem Gathers.offers {q : String → Bool} (ht : (ofInventory inv).Gathers q t) (hm : h ∈ t) :
    inv.Offers h := by
  rcases (ht.mem_iff h).1 hm with ⟨hh, _⟩ | ⟨g, _, _, hg⟩
  · exact .host (mem_allHosts_ofInventory.1 hh)
  · exact offers_of_mem_expandGroup hg

theorem Yields.offers (hy : (ofInventory inv).Yields raw (.ok t)) (hm : h ∈ t) : inv.Offers h := by
  cases hy with
  | group hg => exact offers_of_mem_expandGroup hm
  | regex _ _ ht => exact ht.offers hm
  | glob _ _ ht => exact ht.offers hm
  | brokenGlob => exact absurd hm (HostSet.not_mem_empty h)
  | host _ hh =>
    obtain ⟨rfl, _⟩ := HostSet.mem_singleton.1 hm
    exact .host (mem_hosts_ofInventory.1 hh)
  | unknown => exact absurd hm (HostSet.not_mem_empty h)

theorem offers_of_mem_designated (hm : h ∈ (ofInventory inv).designated s) : inv.Offers h := by
  rw [designated] at hm
  by_cases hb : trim s.raw = ""
  · rw [result_expand_of_blank hb] at hm
    exact absurd hm (HostSet.not_mem_empty h)
  · have hy := (means_strategy (ofInventory inv) (trim s.raw)).yields
    rw [← result_expand_of_raw hb] at hy
    cases hres : ((ofInventory inv).expand s).result with
    | error f =>
      rw [hres] at hm
      exact absurd hm (HostSet.not_mem_empty h)
    | ok t =>
      rw [hres] at hm hy
      exact hy.offers hm

theorem Selects.offers (hs : (ofInventory inv).Selects ss h) : inv.Offers h := by
  rcases hs.start with ⟨_, hall⟩ | ⟨s, _, _, hm⟩
  · exact .host (mem_allHosts_ofInventory.1 hall)
  · exact offers_of_mem_designated hm

end Index

/-- What is selected is listed in order and has no blanks around it, and it is declared. Where no
host is declared it belongs to a group, and only selectors that add hosts find anything. -/
theorem selectHosts_range (hp : selectHosts p inv = .ok hs) :
    hs.Pairwise Precedes ∧ (∀ h ∈ hs, h ≠ "" ∧ IsTrimmed h.toList) ∧
    ((∃ x, inv.Declares x) → ∀ h ∈ hs, inv.Declares h) ∧
    ((∀ x, ¬ inv.Declares x) → (∀ h ∈ hs, ∃ n, inv.Lists n h) ∧
      ∀ l, (parse p).result = .ok l → l.unions = [] → hs = []) := by
  have hoffers : ∀ h ∈ hs, inv.Offers h := fun h hm => ((mem_selectHosts hp).1 hm).offers
  refine ⟨?_, ?_, ?_, ?_⟩
  · obtain ⟨-, rfl⟩ := selectHosts_eq_ok_iff_selects.1 hp
    exact HostSet.sorted _
  · intro h hm
    obtain ⟨hb, htrim⟩ := (hoffers h hm).isName
    exact ⟨hb, trim_eq_self_iff.1 htrim⟩
  · rintro ⟨x, hx⟩ h hm
    cases hoffers h hm with
    | host hd => exact hd
    | member hnone => exact absurd hx (hnone x)
  · intro hnone
    constructor
    · intro h hm
      cases hoffers h hm with
      | host hd => exact absurd hd (hnone h)
      | @member n _ hl => exact ⟨n, hl⟩
    · intro l hl hu
      obtain ⟨-, rfl⟩ := result_parse_eq_ok_iff.1 hl
      rw [Limit.unions_ofList, List.filter_eq_nil_iff] at hu
      rw [List.eq_nil_iff_forall_not_mem]
      intro h hm
      rcases ((mem_selectHosts hp).1 hm).start with ⟨_, hall⟩ | ⟨s, hs, hop, _⟩
      · exact hnone h (Index.mem_allHosts_ofInventory.1 hall)
      · exact hu s hs (decide_eq_true hop)

theorem selectHosts_range_of_members :
    let groups : List Group := [⟨"app", [" b ", ""], ["lib"]⟩, ⟨" lib", ["a"], []⟩]
    let bare : Inventory := ⟨[" "], groups⟩
    let full : Inventory := ⟨["a", "c"], groups⟩
    selectHosts "app:!~^z" bare = .ok ["a", "b"] ∧ (∀ h ∈ ["a", "b"], ∃ n, bare.Lists n h) ∧
      (∀ hs, selectHosts "!~^b" bare = .ok hs → hs = []) ∧
      selectHosts "app:!~^z" full = .ok ["a"] ∧ ∀ h ∈ ["a"], full.Declares h := by
  intro groups bare full
  have hnone : ∀ x, ¬ bare.Declares x := by
    rintro x ⟨hb, y, hy, rfl⟩
    rw [List.mem_singleton.1 hy] at hb
    exact hb (by decide)
  have hbare : selectHosts "app:!~^z" bare = .ok ["a", "b"] := rfl
  have hfull : selectHosts "app:!~^z" full = .ok ["a"] := rfl
  have hparse : (parse "!~^b").result = .ok (.ofList [⟨"~^b", .regex, .exclude⟩]) := rfl
  have hsome : ∃ x, full.Declares x := ⟨"a", by decide, "a", List.mem_cons_self .., by decide⟩
  refine ⟨hbare, ((selectHosts_range hbare).2.2.2 hnone).1, ?_, hfull, ?_⟩
  · intro hs hp
    exact ((selectHosts_range hp).2.2.2 hnone).2 _ hparse rfl
  · exact (selectHosts_range hfull).2.2.1 hsome

end FleetSelect
