import FleetSelect.Proofs.Contents
import FleetSelect.Proofs.Simplification
import Mathlib.Data.List.Forall2
import Mathlib.Data.List.Nodup

namespace FleetSelect

open FleetSelect.Text

variable {inv inv' : Inventory} {n h c : String} {xs ys : List String}

theorem mem_names_of_isName (hxs : ∀ x ∈ xs, IsName x) : h ∈ names xs ↔ h ∈ xs := by
  rw [mem_names]
  constructor
  · rintro ⟨_, x, hx, rfl⟩
    rwa [(hxs x hx).2]
  · intro hh
    exact ⟨(hxs h hh).1, h, hh, (hxs h hh).2⟩

theorem mem_names_perm (hp : xs.Perm ys) : h ∈ names xs ↔ h ∈ names ys := by
  simp only [mem_names, hp.mem_iff]

theorem exists_of_mem_lastChildren {gs : List Group} (hc : c ∈ lastChildren gs) :
    ∃ g ∈ gs, c ∈ names g.children := by
  induction gs using List.reverseRecOn with
  | nil => cases hc
  | append_singleton gs g ih =>
    rw [lastChildren_concat] at hc
    split at hc
    · obtain ⟨g', hg', hc'⟩ := ih hc
      exact ⟨g', List.mem_append_left _ hg', hc'⟩
    · exact ⟨g, List.mem_append_right _ (List.mem_singleton_self g), hc⟩

namespace Inventory

/-- A group refers to another one, in some entry for the group. -/
def Refers (inv : Inventory) (n c : String) : Prop :=
  n ≠ "" ∧ ∃ g ∈ inv.groups, trim g.name = n ∧ c ∈ names g.children

def NamesOnce (inv : Inventory) : Prop :=
  (inv.groups.map fun g => trim g.name).Nodup

theorem declares_iff_mem_names : inv.Declares h ↔ h ∈ names inv.hosts :=
  mem_names.symm

theorem length_named_le_one (ho : inv.NamesOnce) (n : String) : (inv.named n).length ≤ 1 := by
  have := List.nodup_iff_count_le_one.1 ho n
  rw [List.count_eq_countP, List.countP_map, List.countP_eq_length_filter] at this
  simpa [named, Function.comp_def, beq_eq_decide] using this

theorem mem_lastChildren_named (ho : inv.NamesOnce) :
    c ∈ lastChildren (inv.named n) ↔ ∃ g ∈ inv.named n, c ∈ names g.children := by
  constructor
  · exact exists_of_mem_lastChildren
  · intro h
    obtain ⟨g, hg, hc⟩ := h
    -- The entry is the only one for its group, so no later one can replace its children.
    have hle := length_named_le_one ho n
    have hpos := List.length_pos_of_mem hg
    obtain ⟨g', hnamed⟩ := List.length_eq_one_iff.1 (Nat.le_antisymm hle hpos)
    rw [hnamed, List.mem_singleton] at hg
    subst hg
    have hne : names g.children ≠ [] := List.ne_nil_of_mem hc
    rw [hnamed, ← List.nil_append [g], lastChildren_concat, if_neg hne]
    exact hc

end Inventory

theorem Index.child_ofInventory_iff (ho : inv.NamesOnce) :
    (ofInventory inv).Child n c ↔ inv.Refers n c := by
  rw [Child, mem_children_ofInventory, Inventory.mem_lastChildren_named ho, Inventory.Refers]
  simp only [Inventory.mem_named, and_assoc]

namespace Inventory

def groupNames (inv : Inventory) : List String :=
  (names (inv.groups.map (·.name))).eraseDups

def normalHosts (inv : Inventory) : List String :=
  (names inv.hosts).eraseDups

/-- All entries for a group as one, without the members that are not declared, unless no host is,
and without children that are not there. -/
def normalGroup (inv : Inventory) (n : String) : Group where
  name := n
  hosts := ((inv.named n).flatMap fun g => names g.hosts).eraseDups.filter fun h =>
    inv.normalHosts = [] ∨ h ∈ inv.normalHosts
  children := (lastChildren (inv.named n)).eraseDups.filter (· ∈ inv.groupNames)

/-- Every host and every group written once and without what has no effect. -/
def normal (inv : Inventory) : Inventory where
  hosts := inv.normalHosts
  groups := inv.groupNames.map inv.normalGroup

theorem mem_normalHosts : h ∈ inv.normalHosts ↔ inv.Declares h :=
  Index.mem_hosts_ofInventory

theorem mem_groupNames : n ∈ inv.groupNames ↔ inv.HasGroup n := by
  simp only [groupNames, List.mem_eraseDups, mem_names, HasGroup, List.mem_map,
    exists_exists_and_eq_and]

theorem isName_of_mem_hosts_normalGroup (hh : h ∈ (inv.normalGroup n).hosts) : IsName h := by
  simp only [normalGroup, List.mem_filter, List.mem_eraseDups, List.mem_flatMap] at hh
  obtain ⟨⟨g, _, hh⟩, _⟩ := hh
  exact isName_of_mem_names hh

theorem isName_of_mem_children_normalGroup (hc : c ∈ (inv.normalGroup n).children) : IsName c := by
  rw [normalGroup, List.mem_filter, List.mem_eraseDups] at hc
  obtain ⟨g, _, hc'⟩ := exists_of_mem_lastChildren hc.1
  exact isName_of_mem_names hc'

theorem declares_normal : inv.normal.Declares h ↔ inv.Declares h := by
  have hnames : ∀ x ∈ inv.normalHosts, IsName x := by
    intro x hx
    exact isName_of_mem_names (List.mem_eraseDups.1 hx)
  rw [declares_iff_mem_names, normal, mem_names_of_isName hnames, mem_normalHosts]

theorem exists_group_normal {p : Group → Prop} :
    (∃ g ∈ inv.normal.groups, trim g.name = n ∧ p g) ↔ inv.HasGroup n ∧ p (inv.normalGroup n) := by
  have htrim {m : String} (hm : inv.HasGroup m) : trim (inv.normalGroup m).name = m := hm.isName.2
  simp only [normal, List.mem_map, mem_groupNames]
  constructor
  · rintro ⟨_, ⟨m, hm, rfl⟩, hn, hp⟩
    rw [htrim hm] at hn
    subst hn
    exact ⟨hm, hp⟩
  · rintro ⟨hn, hp⟩
    exact ⟨_, ⟨n, hn, rfl⟩, htrim hn, hp⟩

theorem hasGroup_normal : inv.normal.HasGroup n ↔ inv.HasGroup n := by
  have hn : (∃ g ∈ inv.normal.groups, trim g.name = n ∧ True) ↔ inv.HasGroup n ∧ True :=
    exists_group_normal
  simp only [and_true] at hn
  rw [HasGroup, hn]
  exact and_iff_right_of_imp And.left

theorem lists_normal : inv.normal.Lists n h ↔
    inv.Lists n h ∧ (inv.normalHosts ≠ [] → h ∈ inv.normalHosts) := by
  rw [Lists, exists_group_normal,
    mem_names_of_isName (fun _ hx => isName_of_mem_hosts_normalGroup hx), normalGroup]
  simp only [List.mem_filter, List.mem_eraseDups, List.mem_flatMap, decide_eq_true_eq, mem_named,
    Lists, HasGroup, ne_eq, or_iff_not_imp_left]
  constructor
  · rintro ⟨hn, _, ⟨g, ⟨hg, ht⟩, hh⟩, hq⟩
    exact ⟨⟨hn, g, hg, ht, hh⟩, hq⟩
  · rintro ⟨⟨hn, g, hg, ht, hh⟩, hq⟩
    exact ⟨hn, ⟨hn, g, hg, ht⟩, ⟨g, ⟨hg, ht⟩, hh⟩, hq⟩

theorem refers_normal : inv.normal.Refers n c ↔
    (n ≠ "" ∧ c ∈ lastChildren (inv.named n)) ∧ inv.HasGroup c := by
  rw [Refers, exists_group_normal,
    mem_names_of_isName (fun _ hx => isName_of_mem_children_normalGroup hx), normalGroup]
  simp only [List.mem_filter, List.mem_eraseDups, decide_eq_true_eq, mem_groupNames]
  constructor
  · rintro ⟨hn, _, hc, hg⟩
    exact ⟨⟨hn, hc⟩, hg⟩
  · rintro ⟨⟨hn, hc⟩, hg⟩
    -- A name with children is that of a group, so the normal form has an entry for it.
    obtain ⟨g, hgn, _⟩ := exists_of_mem_lastChildren hc
    exact ⟨hn, ⟨hn, g, mem_named.1 hgn⟩, hc, hg⟩

theorem namesOnce_normal (inv : Inventory) : inv.normal.NamesOnce := by
  have htrim : inv.groupNames.map trim = inv.groupNames.map id :=
    List.map_congr_left fun n hn => (mem_groupNames.1 hn).isName.2
  rw [NamesOnce, normal, List.map_map]
  change (inv.groupNames.map trim).Nodup
  rw [htrim, List.map_id]
  exact (areNamesOf_eraseDups_names _).nodup

end Inventory

/-- The same group with its hosts and its children in another order. -/
structure Group.Rearranges (g g' : Group) : Prop where
  name_eq : g.name = g'.name
  hosts : g.hosts.Perm g'.hosts
  children : g.children.Perm g'.children

theorem Group.exists_iff_of_forall₂ {gs gs' : List Group} {p : Group → Prop}
    (h : List.Forall₂ Group.Rearranges gs gs') (hp : ∀ g g', g.Rearranges g' → (p g ↔ p g')) :
    (∃ g ∈ gs, p g) ↔ ∃ g ∈ gs', p g := by
  induction h with
  | nil => rfl
  | cons hg _ ih => rw [List.exists_mem_cons_iff, List.exists_mem_cons_iff, hp _ _ hg, ih]

theorem Group.map_name_of_forall₂ {gs gs' : List Group}
    (h : List.Forall₂ Group.Rearranges gs gs') (f : String → String) :
    (gs.map fun g => f g.name) = gs'.map fun g => f g.name := by
  induction h with
  | nil => rfl
  | cons hg _ ih => rw [List.map_cons, List.map_cons, hg.name_eq, ih]

/-- The same inventory with its hosts and its groups in another order, and each of the groups as
well. -/
structure Inventory.Rearranges (inv inv' : Inventory) : Prop where
  hosts : inv.hosts.Perm inv'.hosts
  groups : ∃ gs, inv.groups.Perm gs ∧ List.Forall₂ Group.Rearranges gs inv'.groups

namespace Inventory.Rearranges

theorem refl (inv : Inventory) : inv.Rearranges inv where
  hosts := .refl _
  groups := ⟨inv.groups, .refl _, List.forall₂_same.2 fun _ _ => ⟨rfl, .refl _, .refl _⟩⟩

theorem exists_group_iff (hr : inv.Rearranges inv') {p : Group → Prop}
    (hp : ∀ g g', g.Rearranges g' → (p g ↔ p g')) :
    (∃ g ∈ inv.groups, p g) ↔ ∃ g ∈ inv'.groups, p g := by
  obtain ⟨gs, hperm, hgs⟩ := hr.groups
  simp only [hperm.mem_iff]
  exact Group.exists_iff_of_forall₂ hgs hp

theorem declares_iff (hr : inv.Rearranges inv') : inv.Declares h ↔ inv'.Declares h := by
  rw [declares_iff_mem_names, declares_iff_mem_names, mem_names_perm hr.hosts]

theorem hasGroup_iff (hr : inv.Rearranges inv') : inv.HasGroup n ↔ inv'.HasGroup n :=
  and_congr_right' (hr.exists_group_iff fun g g' hg => by rw [hg.name_eq])

theorem lists_iff (hr : inv.Rearranges inv') : inv.Lists n h ↔ inv'.Lists n h :=
  and_congr_right' (hr.exists_group_iff fun g g' hg => by rw [hg.name_eq, mem_names_perm hg.hosts])

theorem refers_iff (hr : inv.Rearranges inv') : inv.Refers n c ↔ inv'.Refers n c :=
  and_congr_right'
    (hr.exists_group_iff fun g g' hg => by rw [hg.name_eq, mem_names_perm hg.children])

theorem namesOnce (hr : inv.Rearranges inv') (ho : inv.NamesOnce) : inv'.NamesOnce := by
  obtain ⟨gs, hperm, hgs⟩ := hr.groups
  rw [NamesOnce, ← Group.map_name_of_forall₂ hgs trim]
  exact (hperm.map _).nodup_iff.1 ho

end Inventory.Rearranges

theorem simplifies_of_rearranges_normal (hr : inv.normal.Rearranges inv') :
    (Index.ofInventory inv').Simplifies (.ofInventory inv) where
  hasGroup_eq g := by
    rw [Bool.eq_iff_iff, Index.hasGroup_ofInventory, Index.hasGroup_ofInventory, ← hr.hasGroup_iff,
      Inventory.hasGroup_normal]
  mem_hosts h := by
    rw [Index.mem_hosts_ofInventory, Index.mem_hosts_ofInventory, ← hr.declares_iff,
      Inventory.declares_normal]
  mem_members g h := by
    rw [Index.mem_members_ofInventory, Index.mem_members_ofInventory, ← hr.lists_iff,
      Inventory.lists_normal]
    rfl
  child_iff g c := by
    rw [Index.child_ofInventory_iff (hr.namesOnce inv.namesOnce_normal), ← hr.refers_iff,
      Inventory.refers_normal, Index.Child, Index.mem_children_ofInventory,
      Index.hasGroup_ofInventory]

/-- A pattern selects from an inventory what it selects from the normal form, and fails alike; the
order in which the normal form is written does not matter. -/
theorem selectHosts_normal (pattern : String) (inv : Inventory) :
    selectHosts pattern inv.normal = selectHosts pattern inv ∧
    ∀ inv', inv.normal.Rearranges inv' → selectHosts pattern inv' = selectHosts pattern inv := by
  have h (inv' : Inventory) (hr : inv.normal.Rearranges inv') :
      selectHosts pattern inv' = selectHosts pattern inv :=
    selectHosts_eq_of_simplifies (simplifies_of_rearranges_normal hr) pattern
  exact ⟨h inv.normal (.refl inv.normal), h⟩

theorem selectHosts_normal_of_repeated_group :
    let inv : Inventory := ⟨["web1 ", "db1", "web1"], [⟨"all", ["ghost"], ["web", "none"]⟩,
      ⟨" web", ["web1"], []⟩, ⟨"all", [], ["db", "web ", "web", "none"]⟩, ⟨"db", ["db1"], []⟩]⟩
    let other : Inventory := ⟨["db1", "web1"],
      [⟨"web", ["web1"], []⟩, ⟨"all", [], ["web", "db"]⟩, ⟨"db", ["db1"], []⟩]⟩
    inv.normal = ⟨["web1", "db1"],
      [⟨"all", [], ["db", "web"]⟩, ⟨"web", ["web1"], []⟩, ⟨"db", ["db1"], []⟩]⟩ ∧
    inv.normal.Rearranges other ∧ selectHosts "all:!db" other = selectHosts "all:!db" inv := by
  intro inv other
  have hn : inv.normal = ⟨["web1", "db1"],
      [⟨"all", [], ["db", "web"]⟩, ⟨"web", ["web1"], []⟩, ⟨"db", ["db1"], []⟩]⟩ := by decide
  have hr : inv.normal.Rearranges other := by
    rw [hn]
    refine ⟨.swap _ _ _, _, .swap _ _ _, ?_⟩
    exact .cons ⟨rfl, .refl _, .refl _⟩ (.cons ⟨rfl, .refl _, .swap _ _ _⟩
      (.cons ⟨rfl, .refl _, .refl _⟩ .nil))
  exact ⟨hn, hr, (selectHosts_normal "all:!db" inv).2 other hr⟩

end FleetSelect
