import FleetSelect.Proofs.Complement
import FleetSelect.Proofs.Expansion
import FleetSelect.Proofs.Grouping

namespace FleetSelect

open FleetSelect.Text

variable {i : Index} {inv : Inventory} {s : Selector} {op : Operator} {t : HostSet}
  {p q n g h : String} {hs : List String}

/-- A name as it is written in a pattern. -/
def escapeName (n : String) : String :=
  String.ofList (escape n.toList)

/-- The selector that a name is read as after the sign of an operator. -/
def Selector.ofName (op : Operator) (n : String) : Selector :=
  ⟨n, .ofText n, op⟩

theorem Selector.isExpressible_ofName (hn : IsName n)
    (hsign : op = .union → ¬ IsSigned n.toList) : (ofName op n).IsExpressible :=
  ⟨hn.1, hn.2, rfl, hsign⟩

theorem selectorsIn_escaped (hs : s.IsExpressible) : selectorsIn s.escaped.toList = [s] := by
  have hall : ∀ t ∈ [s], t.IsExpressible := List.forall_mem_singleton.2 hs
  have hread : selectorsOf (patternOf [s]) = [s] :=
    selectorsOf_patternOf (List.cons_ne_nil s []) hall
  have htext : (patternOf [s]).toList = s.escaped.toList := by
    rw [toList_patternOf, Selector.toList_escaped]
    exact List.intercalate_singleton
  rwa [selectorsOf_eq, htext] at hread

theorem selectorsOf_append_escaped (hs : s.IsExpressible) (hd : dangles p.toList = false)
    (hq : q.toList = p.toList ++ ':' :: s.escaped.toList) :
    selectorsOf q = selectorsOf p ++ [s] := by
  rw [selectorsOf_eq, selectorsOf_eq, hq, selectorsIn_append_separator rfl hd,
    selectorsIn_escaped hs]

theorem Index.selects_singleton (hop : s.op = .union) :
    i.Selects [s] h ↔ h ∈ i.designated s := by
  have hall : ∀ t ∈ [s], t.op = .union := List.forall_mem_singleton.2 hop
  rw [selects_iff_of_union (List.cons_ne_nil s []) hall]
  simp only [List.mem_singleton, exists_eq_left]

theorem selectHosts_of_singleton (hp : selectorsOf p = [s]) (hop : s.op = .union)
    (ht : ((Index.ofInventory inv).expand s).result = .ok t) :
    selectHosts p inv = .ok t.toList := by
  obtain ⟨hnone, rfl⟩ := Index.result_expand_eq_ok.1 ht
  apply selectHosts_eq_ok ((resolves_singleton_iff hp).2 hnone) (HostSet.sorted _)
  intro h
  rw [hp, Index.selects_singleton hop, HostSet.mem_def]

theorem selectHosts_of_concat_exclude (hp : selectHosts p inv = .ok hs)
    (hq : selectorsOf q = selectorsOf p ++ [s]) (hop : s.op = .exclude)
    (ht : ((Index.ofInventory inv).expand s).result = .ok t) :
    selectHosts q inv = .ok (hs.filter (· ∉ t)) := by
  obtain ⟨hnone, rfl⟩ := Index.result_expand_eq_ok.1 ht
  have hunion : s.op ≠ .union := by
    rw [hop]
    exact nofun
  apply selectHosts_eq_ok ((resolves_concat hp hq).2 hnone) ((pairwise_selectHosts hp).filter _)
  intro h
  rw [hq, Index.selects_concat hunion, ← mem_selectHosts hp, List.mem_filter, decide_eq_true_eq]
  simp [hop]

namespace Index

theorem result_expand_of_yields (hs : s.IsExpressible) {x : Except Failure HostSet}
    (hy : i.Yields s.raw x) : (i.expand s).result = x := by
  have hraw : trim s.raw ≠ "" := by
    rw [hs.trim_raw]
    exact hs.raw_ne_empty
  rw [result_expand_of_raw hraw, hs.trim_raw]
  exact hy.result_eq

theorem result_expand_ofName_group (hn : IsName g) (hg : i.hasGroup g = true)
    (hsign : op = .union → ¬ IsSigned g.toList) :
    (i.expand (.ofName op g)).result = .ok (i.expandGroup g) :=
  result_expand_of_yields (Selector.isExpressible_ofName hn hsign) (.group hg)

theorem result_expand_ofName_host (op : Operator) (hn : IsName h) (hm : i.Means h .host)
    (hh : h ∈ i.hosts) (hsign : op = .union → ¬ IsSigned h.toList) :
    (i.expand (.ofName op h)).result = .ok (.singleton h) :=
  result_expand_of_yields (Selector.isExpressible_ofName hn hsign) (.host hm hh)

theorem means_host (hg : i.hasGroup h = false) (ht : h.toList.head? = some '~' → h = "~")
    (hw : ∀ c ∈ h.toList, isWildcard c = false) : i.Means h .host := by
  refine .host hg ?_ hw
  intro e h
  obtain ⟨he, rfl⟩ := h
  have hlone : "~" ++ e = "~" := ht (by simp)
  rw [String.append_eq_left_iff] at hlone
  exact he hlone

end Index

theorem toList_escaped_ofName (op : Operator) (n : String) :
    (Selector.ofName op n).escaped.toList = op.mark ++ (escapeName n).toList := by
  rw [Selector.escaped, escapeName, String.toList_ofList, String.toList_ofList, Selector.ofName]

theorem selectorsOf_escapeName (hn : IsName n) (hsign : ¬ IsSigned n.toList) :
    selectorsOf (escapeName n) = [.ofName .union n] := by
  have hs : (Selector.ofName .union n).IsExpressible :=
    Selector.isExpressible_ofName hn fun _ => hsign
  have hread := selectorsIn_escaped hs
  rw [toList_escaped_ofName] at hread
  rw [selectorsOf_eq]
  exact hread

theorem selectorsOf_append_excluded_name (hn : IsName n) (hd : dangles p.toList = false) :
    selectorsOf (p ++ ":!" ++ escapeName n) = selectorsOf p ++ [.ofName .exclude n] := by
  have hs : (Selector.ofName .exclude n).IsExpressible := Selector.isExpressible_ofName hn nofun
  apply selectorsOf_append_escaped hs hd
  rw [toList_escaped_ofName]
  simp [Operator.mark, Operator.sign?]

/-- An escaped name selects the hosts of the group with that name, whatever else the name looks
like. The name of a host that is no group, no expression and no pattern with wildcards selects just
the host and, as an exclusion after another pattern, takes just the host away. -/
theorem selectHosts_escapeName (inv : Inventory) :
    (∀ g, inv.HasGroup g → ¬ IsSigned g.toList →
      selectHosts (escapeName g) inv = .ok ((Index.ofInventory inv).expandGroup g).toList) ∧
    ∀ h, inv.Declares h → ¬ inv.HasGroup h → (∀ c ∈ h.toList, isWildcard c = false) →
      (h.toList.head? = some '~' → h = "~") →
      (∀ p hs, selectHosts p inv = .ok hs → dangles p.toList = false →
        selectHosts (p ++ ":!" ++ escapeName h) inv = .ok (hs.filter (· ≠ h))) ∧
      (¬ IsSigned h.toList → selectHosts (escapeName h) inv = .ok [h]) := by
  constructor
  · intro g hg hsign
    have hn : IsName g := hg.isName
    apply selectHosts_of_singleton (selectorsOf_escapeName hn hsign) rfl
    exact Index.result_expand_ofName_group hn (Index.hasGroup_ofInventory.2 hg) fun _ => hsign
  · intro h hd hg hw ht
    have hn : IsName h := isName_of_mem_names (mem_names.2 hd)
    have hnone : (Index.ofInventory inv).hasGroup h = false :=
      Bool.eq_false_iff.2 (mt Index.hasGroup_ofInventory.1 hg)
    have hm : (Index.ofInventory inv).Means h .host := Index.means_host hnone ht hw
    have hh : h ∈ (Index.ofInventory inv).hosts := Index.mem_hosts_ofInventory.2 hd
    constructor
    · intro p hs hp hdang
      have hq := selectorsOf_append_excluded_name hn hdang
      have hres := Index.result_expand_ofName_host .exclude hn hm hh nofun
      rw [selectHosts_of_concat_exclude hp hq rfl hres]
      simp only [HostSet.mem_singleton, hn.1, ne_eq, not_false_eq_true, and_true]
    · intro hsign
      have hres := Index.result_expand_ofName_host .union hn hm hh fun _ => hsign
      rw [selectHosts_of_singleton (selectorsOf_escapeName hn hsign) rfl hres]
      simp only [HostSet.singleton, hn.1, dite_false]

theorem selectHosts_escapeName_broken_expression :
    let inv : Inventory := ⟨["a:1", "b"], [⟨" ~(", ["b", "a:1"], []⟩]⟩
    inv.HasGroup "~(" ∧ ¬ IsSigned "~(".toList ∧ selectHosts "~(" inv = .ok ["a:1", "b"] ∧
      inv.Declares "a:1" ∧ ¬ inv.HasGroup "a:1" ∧ (∀ c ∈ "a:1".toList, isWildcard c = false) ∧
      selectHosts "~(:!a\\:1" inv = .ok ["b"] ∧ selectHosts "a\\:1" inv = .ok ["a:1"] := by
  intro inv
  have hsigned (cs : List Char) (h : cs.head? ≠ some '&' ∧ cs.head? ≠ some '!') : ¬ IsSigned cs :=
    fun hs => hs.elim h.1 h.2
  have hgroups (n : String) : inv.HasGroup n ↔ n = "~(" := by
    have htrim : trim " ~(" = "~(" := by decide
    simp only [Inventory.HasGroup, inv, List.mem_singleton, exists_eq_left, htrim]
    constructor
    · intro h
      obtain ⟨_, hn⟩ := h
      exact hn.symm
    · intro h
      subst h
      exact ⟨by decide, rfl⟩
  have hg : inv.HasGroup "~(" := (hgroups _).2 rfl
  have hg' : ¬ inv.HasGroup "a:1" := mt (hgroups _).1 (by decide)
  have hd : inv.Declares "a:1" := ⟨by decide, "a:1", List.mem_cons_self .., by decide⟩
  have hsign : ¬ IsSigned "~(".toList := hsigned _ (by decide)
  have hsign' : ¬ IsSigned "a:1".toList := hsigned _ (by decide)
  have ht : "a:1".toList.head? = some '~' → "a:1" = "~" := by decide
  have hall : "a:1".toList.all (fun c => !isWildcard c) = true := rfl
  have hw : ∀ c ∈ "a:1".toList, isWildcard c = false := by
    intro c hc
    exact Bool.not_eq_true' _ ▸ List.all_eq_true.1 hall c hc
  have hset : (Index.ofInventory inv).expandGroup "~(" = .ofList ["a:1", "b"] := by decide
  have hname : escapeName "~(" = "~(" := by decide
  have hname' : escapeName "a:1" = "a\\:1" := by decide
  have hrest : ["a:1", "b"].filter (· ≠ "a:1") = ["b"] := by decide
  have hgroup := (selectHosts_escapeName inv).1 "~(" hg hsign
  rw [hset, hname] at hgroup
  obtain ⟨hexclude, hselect⟩ := (selectHosts_escapeName inv).2 "a:1" hd hg' hw ht
  have hothers := hexclude "~(" ["a:1", "b"] hgroup rfl
  rw [hname', hrest] at hothers
  have hone := hselect hsign'
  rw [hname'] at hone
  exact ⟨hg, hsign, hgroup, hd, hg', hw, hothers, hone⟩

end FleetSelect
