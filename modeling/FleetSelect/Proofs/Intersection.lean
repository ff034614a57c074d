import FleetSelect.Proofs.Naming
import FleetSelect.Proofs.Range
import FleetSelect.Proofs.Refusal

namespace FleetSelect

open FleetSelect.Text

variable {i : Index} {inv : Inventory} {s : Selector} {l : Limit} {p x h : String} {f : Failure}

theorem Index.selects_nil : i.Selects [] h ↔ h ∈ i.allHosts := by
  constructor
  · intro hsel
    rcases hsel.start with ⟨_, hall⟩ | ⟨s, hs, _⟩
    · exact hall
    · cases hs
  · intro hall
    exact ⟨.inl ⟨fun s hs => absurd hs List.not_mem_nil, hall⟩, fun s hs => absurd hs List.not_mem_nil,
      fun s hs => absurd hs List.not_mem_nil⟩

theorem Index.selects_singleton_intersect (hop : s.op = .intersect) :
    i.Selects [s] h ↔ h ∈ i.allHosts ∧ h ∈ i.designated s := by
  have hunion : s.op ≠ .union := by
    rw [hop]
    exact nofun
  have hconcat : i.Selects ([] ++ [s]) h ↔ _ := selects_concat hunion
  rw [List.nil_append, selects_nil] at hconcat
  rw [hconcat]
  simp [hop]

theorem selectHosts_eq_error_iff_failure? (hp : selectorsOf p = [s]) :
    selectHosts p inv = .error f ↔ (Index.ofInventory inv).failure? s = some f := by
  have hl : Limit.ofPattern? p = some (.ofList [s]) :=
    ofPattern?_eq_some_iff.2 ⟨hp ▸ List.cons_ne_nil s [], by rw [hp]⟩
  have horder : evaluationOrder [s] = [s] := List.perm_singleton.1 (evaluationOrder_perm [s])
  rw [selectHosts_eq, hl]
  simp only
  rw [map_eq_error_iff, outcome_eq_error, Limit.toList_ofList, horder,
    Index.findSome?_failure?_cons, List.findSome?_nil, Option.or_none]

theorem selectorsOf_eq_singleton (hx : separators x.toList = 0) (hl : (parse x).result = .ok l)
    (hu : l.unions = [s]) : selectorsOf x = [s] ∧ s.op = .union := by
  obtain ⟨-, rfl⟩ := result_parse_eq_ok_iff.1 hl
  rw [Limit.unions_ofList] at hu
  have hlen : (selectorsOf x).length ≤ 1 := by
    calc (selectorsOf x).length
        ≤ (cutSelectors x.toList).length := by
          rw [selectorsOf_eq]
          exact List.length_filterMap_le selectorOf? _
      _ = 1 := by rw [length_cutSelectors_eq_separators, hx]
  have hsub : [s].Sublist (selectorsOf x) := hu ▸ List.filter_sublist
  have hmem : s ∈ (selectorsOf x).filter (·.op = .union) := hu ▸ List.mem_singleton_self s
  exact ⟨(hsub.eq_of_length_le hlen).symm, of_decide_eq_true (List.mem_filter.1 hmem).2⟩

theorem selectorsOf_intersect (hx : separators x.toList = 0) (hs : selectorsOf x = [s])
    (hop : s.op = .union) : selectorsOf ("&" ++ x) = [.ofName .intersect s.raw] := by
  have htext : ("&" ++ x).toList = Operator.intersect.mark ++ x.toList := String.toList_append
  rw [selectorsOf_eq] at hs
  rw [selectorsOf_eq, htext]
  exact selectorsIn_mark_append_of_separators hx hs hop nofun

theorem Index.selects_intersect_iff (s : Selector) :
    (ofInventory inv).Selects [.ofName .intersect s.raw] h ↔
      inv.Declares h ∧ h ∈ (ofInventory inv).designated s := by
  have hsame : (ofInventory inv).designated (.ofName .intersect s.raw) =
      (ofInventory inv).designated s := designated_congr rfl
  rw [selects_singleton_intersect rfl, mem_allHosts_ofInventory, hsame]

theorem expandGroup_eq_empty_of_not_lists {n : String}
    (hn : ∀ g h, (Index.ofInventory inv).Reaches n g → ¬ inv.Lists g h) (htrim : trim n = n) :
    (Index.ofInventory inv).expandGroup n = .empty := by
  apply HostSet.ext
  intro h
  rw [Index.mem_expandGroup, htrim]
  refine iff_of_false ?_ (HostSet.not_mem_empty h)
  intro hm
  obtain ⟨-, ⟨g, hr, hg⟩, -⟩ := hm
  exact hn g h hr (Index.mem_members_ofInventory.1 hg)

/-- A single selector that keeps hosts fails as if it added them, and it selects the same hosts,
except where no host is declared, since then there is none to keep. A group without members keeps
nothing. -/
theorem selectHosts_intersect (inv : Inventory) (hx : separators x.toList = 0)
    (hl : (parse x).result = .ok l) (hu : l.unions = [s]) :
    (∀ f, selectHosts ("&" ++ x) inv = .error f ↔ selectHosts x inv = .error f) ∧
    ((∃ h, inv.Declares h) → selectHosts ("&" ++ x) inv = selectHosts x inv) ∧
    ((∀ h, ¬ inv.Declares h) →
      ∀ hs, selectHosts x inv = .ok hs → selectHosts ("&" ++ x) inv = .ok []) ∧
    (inv.HasGroup s.raw →
      (∀ g h, (Index.ofInventory inv).Reaches s.raw g → ¬ inv.Lists g h) →
      selectHosts ("&" ++ x) inv = .ok []) := by
  obtain ⟨hadd, hop⟩ := selectorsOf_eq_singleton hx hl hu
  have hkeep : selectorsOf ("&" ++ x) = [.ofName .intersect s.raw] :=
    selectorsOf_intersect hx hadd hop
  have hsame : (Index.ofInventory inv).failure? (.ofName .intersect s.raw) =
      (Index.ofInventory inv).failure? s := Index.failure?_congr rfl
  have hfail (f : Failure) :
      selectHosts ("&" ++ x) inv = .error f ↔ selectHosts x inv = .error f := by
    rw [selectHosts_eq_error_iff_failure? hkeep, selectHosts_eq_error_iff_failure? hadd, hsame]
  have hresolves {hs : List String} (hok : selectHosts x inv = .ok hs) :
      ∃ ks, selectHosts ("&" ++ x) inv = .ok ks := by
    rw [resolves_singleton_iff hkeep, hsame, ← resolves_singleton_iff hadd]
    exact ⟨hs, hok⟩
  refine ⟨hfail, fun hd => ?_, fun hnone hs hok => ?_, fun hg hempty => ?_⟩
  · cases hok : selectHosts x inv with
    | error f => exact (hfail f).2 hok
    | ok hs =>
      apply selectHosts_eq_ok (hresolves hok) (pairwise_selectHosts hok)
      intro h
      rw [mem_selectHosts hok, hadd, Index.selects_singleton hop, hkeep,
        Index.selects_intersect_iff]
      -- every host of the selector is declared, so that looking for declared ones loses none
      apply (and_iff_right_of_imp _).symm
      intro hm
      exact (Index.offers_of_mem_designated hm).declares hd
  · apply selectHosts_eq_ok (hresolves hok) .nil
    intro h
    rw [hkeep, Index.selects_intersect_iff]
    exact iff_of_false List.not_mem_nil fun hm => hnone h hm.1
  · have hexpand : ((Index.ofInventory inv).expand (.ofName .intersect s.raw)).result =
        .ok .empty := by
      rw [← expandGroup_eq_empty_of_not_lists hempty hg.isName.2]
      exact Index.result_expand_ofName_group hg.isName (Index.hasGroup_ofInventory.2 hg) nofun
    obtain ⟨hres, hdes⟩ := Index.result_expand_eq_ok.1 hexpand
    apply selectHosts_eq_ok ((resolves_singleton_iff hkeep).2 hres) .nil
    intro h
    rw [hkeep, Index.selects_singleton_intersect rfl, hdes]
    exact iff_of_false List.not_mem_nil fun hm => HostSet.not_mem_empty h hm.2

theorem selectHosts_intersect_escaped_separator :
    let groups : List Group := [⟨"lab,a", ["web1", "old"], []⟩, ⟨"none", [" "], ["none"]⟩]
    let full : Inventory := ⟨["web1", "web2"], groups⟩
    let bare : Inventory := ⟨[], groups⟩
    separators " lab\\,a\\ ".toList = 0 ∧
      (parse " lab\\,a\\ ").result = .ok (.ofList [⟨"lab,a", .unknown, .union⟩]) ∧
      selectHosts " lab\\,a\\ " full = .ok ["web1"] ∧
      selectHosts ("&" ++ " lab\\,a\\ ") full = .ok ["web1"] ∧
      selectHosts " lab\\,a\\ " bare = .ok ["old", "web1"] ∧
      selectHosts ("&" ++ " lab\\,a\\ ") bare = .ok [] ∧
      full.HasGroup "none" ∧ (∀ g h, (Index.ofInventory full).Reaches "none" g → ¬ full.Lists g h) ∧
      selectHosts ("&" ++ "none") full = .ok [] := by
  intro groups full bare
  have hparse : (parse " lab\\,a\\ ").result = .ok (.ofList [⟨"lab,a", .unknown, .union⟩]) := rfl
  have hparse' : (parse "none").result = .ok (.ofList [⟨"none", .group, .union⟩]) := rfl
  have hfull : selectHosts " lab\\,a\\ " full = .ok ["web1"] := rfl
  have hbare : selectHosts " lab\\,a\\ " bare = .ok ["old", "web1"] := rfl
  have hd : ∃ h, full.Declares h := ⟨"web1", by decide, "web1", List.mem_cons_self .., by decide⟩
  have hnone : ∀ h, ¬ bare.Declares h := by
    intro h hh
    obtain ⟨-, _, hm, -⟩ := hh
    cases hm
  have hg : full.HasGroup "none" :=
    ⟨by decide, ⟨"none", [" "], ["none"]⟩, List.mem_cons_of_mem _ (List.mem_cons_self ..), by decide⟩
  have hchildren : (Index.ofInventory full).children "none" = ["none"] := by decide
  have hmembers : (Index.ofInventory full).members "none" = .empty := by decide
  have hreach : ∀ g, (Index.ofInventory full).Reaches "none" g → g = "none" := by
    intro g hr
    induction hr with
    | refl => rfl
    | tail _ hc ih =>
      rw [ih, Index.Child, hchildren] at hc
      exact List.mem_singleton.1 hc
  have hempty : ∀ g h, (Index.ofInventory full).Reaches "none" g → ¬ full.Lists g h := by
    intro g h hr hl
    rw [hreach g hr, ← Index.mem_members_ofInventory, hmembers] at hl
    exact HostSet.not_mem_empty h hl
  obtain ⟨-, hequal, -, -⟩ := selectHosts_intersect full rfl hparse rfl
  obtain ⟨-, -, hnothing, -⟩ := selectHosts_intersect bare rfl hparse rfl
  obtain ⟨-, -, -, hgroup⟩ := selectHosts_intersect full rfl hparse' rfl
  exact ⟨rfl, hparse, hfull, (hequal hd).trans hfull, hbare, hnothing hnone _ hbare, hg, hempty,
    hgroup hg hempty⟩

end FleetSelect
