import FleetSelect.Proofs.Grouping
import Mathlib.Data.Set.Card

namespace FleetSelect

open FleetSelect.Text

variable {inv : Inventory} {gs : List Group} {g : Group} {ns xs : List String} {n x : String}

/-- The names that occur in some texts, each once and in the order in which they first occur. -/
structure AreNamesOf (ns xs : List String) : Prop where
  nodup : ns.Nodup
  mem_iff : ∀ n, n ∈ ns ↔ n ≠ "" ∧ ∃ x ∈ xs, trim x = n
  ordered : ns.Pairwise fun m n => (xs.map trim).idxOf m < (xs.map trim).idxOf n

theorem pairwise_idxOf_cons (hns : x ∉ ns)
    (h : ns.Pairwise fun m n => xs.idxOf m < xs.idxOf n) :
    ns.Pairwise fun m n => (x :: xs).idxOf m < (x :: xs).idxOf n := by
  apply h.imp_of_mem
  intro m n hm hn hlt
  have hxm : x ≠ m := fun he => hns (he ▸ hm)
  have hxn : x ≠ n := fun he => hns (he ▸ hn)
  rw [List.idxOf_cons_ne xs hxm, List.idxOf_cons_ne xs hxn]
  exact Nat.succ_lt_succ hlt

theorem pairwise_idxOf_eraseDups_filter (xs : List String) (p : String → Bool) :
    (xs.filter p).eraseDups.Pairwise fun m n => xs.idxOf m < xs.idxOf n := by
  induction xs generalizing p with
  | nil => exact List.Pairwise.nil
  | cons x xs ih =>
    by_cases hx : p x = true
    · rw [List.filter_cons_of_pos hx, List.eraseDups_cons, List.filter_filter]
      have hrest : x ∉ (xs.filter fun y => !y == x && p y).eraseDups := by simp
      apply List.Pairwise.cons
      · intro y hy
        have hxy : x ≠ y := fun he => hrest (he ▸ hy)
        rw [List.idxOf_cons_self, List.idxOf_cons_ne xs hxy]
        exact Nat.succ_pos _
      · exact pairwise_idxOf_cons hrest (ih _)
    · rw [List.filter_cons_of_neg hx]
      apply pairwise_idxOf_cons _ (ih p)
      rw [List.mem_eraseDups, List.mem_filter]
      exact fun h => hx h.2

theorem areNamesOf_eraseDups_names (xs : List String) : AreNamesOf (names xs).eraseDups xs := by
  have hordered := pairwise_idxOf_eraseDups_filter (xs.map trim) (· ≠ "")
  constructor
  · apply hordered.imp
    intro m n hlt he
    exact Nat.lt_irrefl _ (he ▸ hlt)
  · intro n
    rw [List.mem_eraseDups, mem_names]
  · exact hordered

/-- A group is the last one of a name that has any children. -/
def IsLastParent (gs : List Group) (n : String) (g : Group) : Prop :=
  ∃ before after, gs = before ++ g :: after ∧ trim g.name = n ∧ names g.children ≠ [] ∧
    ∀ g' ∈ after, trim g'.name = n → names g'.children = []

theorem IsLastParent.mem (h : IsLastParent gs n g) :
    g ∈ gs ∧ trim g.name = n ∧ names g.children ≠ [] := by
  obtain ⟨before, after, rfl, hn, hc, _⟩ := h
  exact ⟨List.mem_append_right before List.mem_cons_self, hn, hc⟩

theorem IsLastParent.concat (h : IsLastParent gs n g) {g' : Group}
    (hg' : trim g'.name = n → names g'.children = []) : IsLastParent (gs ++ [g']) n g := by
  obtain ⟨before, after, rfl, hn, hc, hafter⟩ := h
  refine ⟨before, after ++ [g'], by simp, hn, hc, ?_⟩
  intro g'' hg''
  rcases List.mem_append.1 hg'' with hg'' | hg''
  · exact hafter g'' hg''
  · rw [List.mem_singleton.1 hg'']
    exact hg'

theorem isLastParent_concat_self (hn : trim g.name = n) (hc : names g.children ≠ []) :
    IsLastParent (gs ++ [g]) n g := by
  refine ⟨gs, [], rfl, hn, hc, ?_⟩
  intro g' hg'
  cases hg'

theorem lastChildren_filter_concat (gs : List Group) (g : Group) (n : String) :
    lastChildren ((gs ++ [g]).filter fun g => trim g.name = n) =
      if trim g.name = n ∧ names g.children ≠ [] then names g.children
      else lastChildren (gs.filter fun g => trim g.name = n) := by
  rw [List.filter_append]
  by_cases hn : trim g.name = n
  · rw [List.filter_cons_of_pos (by simpa using hn), List.filter_nil, lastChildren_concat]
    by_cases hc : names g.children = []
    · simp [hc]
    · simp [hc, hn]
  · simp [hn]

theorem lastChildren_filter_cases (gs : List Group) (n : String) :
    (lastChildren (gs.filter fun g => trim g.name = n) = [] ∧
      ∀ g ∈ gs, trim g.name = n → names g.children = []) ∨
    ∃ g, IsLastParent gs n g ∧
      lastChildren (gs.filter fun g => trim g.name = n) = names g.children := by
  induction gs using List.reverseRecOn with
  | nil => exact .inl ⟨rfl, fun g hg => absurd hg List.not_mem_nil⟩
  | append_singleton gs g ih =>
    rw [lastChildren_filter_concat]
    by_cases hg : trim g.name = n ∧ names g.children ≠ []
    · obtain ⟨hn, hc⟩ := hg
      rw [if_pos ⟨hn, hc⟩]
      exact .inr ⟨g, isLastParent_concat_self hn hc, rfl⟩
    · have hskip : trim g.name = n → names g.children = [] := by simpa using hg
      rw [if_neg hg]
      rcases ih with ⟨hnil, hall⟩ | ⟨g', hlast, he⟩
      · refine .inl ⟨hnil, ?_⟩
        simpa [or_imp, forall_and] using And.intro hall hskip
      · exact .inr ⟨g', hlast.concat hskip, he⟩

namespace Index

variable {e : Entry} {es : List Entry}

theorem find?_name_eq_some (hes : (es.map (·.name)).Nodup) (he : e ∈ es) :
    es.find? (·.name = e.name) = some e := by
  induction es with
  | nil => cases he
  | cons e' es ih =>
    rw [List.map_cons, List.nodup_cons] at hes
    obtain ⟨hnew, hnodup⟩ := hes
    rcases List.mem_cons.1 he with rfl | he
    · exact List.find?_cons_of_pos (by simp)
    · have hne : e'.name ≠ e.name := by
        intro h
        exact hnew (h ▸ List.mem_map_of_mem he)
      rw [List.find?_cons_of_neg (by simpa using hne)]
      exact ih hnodup he

theorem areNamesOf_groups (inv : Inventory) :
    AreNamesOf ((ofInventory inv).groups.map (·.name)) (inv.groups.map (·.name)) := by
  rw [map_name_ofInventory]
  exact areNamesOf_eraseDups_names _

theorem group?_name (he : e ∈ (ofInventory inv).groups) :
    (ofInventory inv).group? e.name = some e :=
  find?_name_eq_some (areNamesOf_groups inv).nodup he

/-- An entry holds what the groups of its name say together. Its hosts are those of all of them, and
its children are those of the last one that has any. -/
structure Entry.Combines (e : Entry) (inv : Inventory) : Prop where
  mem_members : ∀ h, h ∈ e.members ↔ inv.Lists e.name h
  children_ne_nil : e.children ≠ [] ↔
    ∃ g ∈ inv.groups, trim g.name = e.name ∧ names g.children ≠ []
  children_eq : e.children ≠ [] →
    ∃ g, IsLastParent inv.groups e.name g ∧ e.children = names g.children

theorem combines_of_mem (he : e ∈ (ofInventory inv).groups) : e.Combines inv := by
  have hfind : (ofInventory inv).group? e.name = some e := group?_name he
  have hmembers : ∀ h, h ∈ e.members ↔ inv.Lists e.name h := by
    intro h
    rw [← mem_members_ofInventory, members, hfind]
  have hchildren : lastChildren (inv.named e.name) = e.children := by
    rw [← children_ofInventory inv (name_ne_empty e he), children, hfind]
  have hcases := lastChildren_filter_cases inv.groups e.name
  rw [← Inventory.named, hchildren] at hcases
  rcases hcases with ⟨hnil, hall⟩ | ⟨g, hlast, heq⟩
  · refine ⟨hmembers, iff_of_false (not_not_intro hnil) ?_, fun h => absurd hnil h⟩
    intro hex
    obtain ⟨g, hg, hn, hc⟩ := hex
    exact hc (hall g hg hn)
  · obtain ⟨hg, hn, hc⟩ := hlast.mem
    exact ⟨hmembers, iff_of_true (heq ▸ hc) ⟨g, hg, hn, hc⟩, fun _ => ⟨g, hlast, heq⟩⟩

theorem groupCount_ofInventory (inv : Inventory) :
    (ofInventory inv).groupCount = {n | inv.HasGroup n}.ncard := by
  have hnames := areNamesOf_groups inv
  have hset : {n | inv.HasGroup n} = ((ofInventory inv).groups.map (·.name)).toFinset := by
    ext n
    rw [Set.mem_ofPred_eq, Finset.mem_coe, List.mem_toFinset, hnames.mem_iff, Inventory.HasGroup]
    simp only [List.mem_map, exists_exists_and_eq_and]
  rw [hset, Set.ncard_coe_finset, List.toFinset_card_of_nodup hnames.nodup, List.length_map,
    groupCount]

/-- An index lists the hosts and the groups of its inventory, each once, blank names left out. Each
group is found under its name with what its entries say together, and there are no other groups. -/
theorem ofInventory_contents (inv : Inventory) :
    let i := ofInventory inv
    (AreNamesOf i.hosts inv.hosts ∧ ∀ h, h ∈ i.allHosts ↔ h ∈ i.hosts) ∧
    AreNamesOf (i.groups.map (·.name)) (inv.groups.map (·.name)) ∧
    (∀ e ∈ i.groups, e.Combines inv ∧ i.group? e.name = some e) ∧
    (∀ n, (i.hasGroup n = true ↔ inv.HasGroup n) ∧ (i.children n ≠ [] → i.hasGroup n = true)) ∧
    i.groupCount = {n | inv.HasGroup n}.ncard := by
  intro i
  refine ⟨⟨areNamesOf_eraseDups_names inv.hosts, ?_⟩, areNamesOf_groups inv, ?_, ?_,
    groupCount_ofInventory inv⟩
  · intro h
    rw [mem_allHosts_ofInventory, mem_hosts_ofInventory]
  · intro e he
    exact ⟨combines_of_mem he, group?_name he⟩
  · intro n
    refine ⟨hasGroup_ofInventory, ?_⟩
    intro hc
    by_contra hn
    exact hc (children_of_group?_eq_none (group?_eq_none (eq_false_of_ne_true hn)))

example : (ofInventory ⟨[], [⟨"web ", ["b"], ["db"]⟩, ⟨"web", ["a"], [" "]⟩]⟩).groups =
    [⟨"web", .ofList ["a", "b"], ["db"]⟩] := by
  decide

end Index

end FleetSelect
