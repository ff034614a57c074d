import FleetSelect.Proofs.Correspondence
import FleetSelect.Proofs.GroupExpansion

namespace FleetSelect

open FleetSelect.Text

def Index.restrict (i : Index) (s : HostSet) : HostSet :=
  s.filter (· ∈ i.allHosts)

/-- An index has the groups of another one and some of its hosts. -/
structure Index.Narrows (i j : Index) : Prop where
  groups : i.groups = j.groups
  hosts_ne_nil : i.hosts ≠ []
  mem_hosts : ∀ h ∈ i.hosts, h ∈ j.hosts

namespace Index

variable {i j : Index} {h : String}

@[simp] theorem mem_restrict {s : HostSet} : h ∈ i.restrict s ↔ h ∈ s ∧ h ∈ i.allHosts := by
  rw [restrict, HostSet.mem_filter, decide_eq_true_eq]

namespace Narrows

theorem group?_eq (hn : i.Narrows j) (g : String) : i.group? g = j.group? g := by
  rw [group?, group?, hn.groups]

theorem right_hosts_ne_nil (hn : i.Narrows j) : j.hosts ≠ [] := by
  obtain ⟨h, hh⟩ := List.exists_mem_of_ne_nil i.hosts hn.hosts_ne_nil
  exact List.ne_nil_of_mem (hn.mem_hosts h hh)

theorem mem_allHosts (hn : i.Narrows j) (hh : h ∈ i.allHosts) : h ∈ j.allHosts := by
  rw [Index.mem_allHosts] at hh ⊢
  exact hh.imp_left (hn.mem_hosts h)

theorem reaches_iff (hn : i.Narrows j) {g c : String} : i.Reaches g c ↔ j.Reaches g c := by
  have he : i.Child = j.Child := by
    funext g c
    rw [Child, Child, children, children, hn.group?_eq]
  rw [Reaches, Reaches, he]

theorem expandGroup_eq (hn : i.Narrows j) (name : String) :
    i.expandGroup name = i.restrict (j.expandGroup name) := by
  apply HostSet.ext
  intro h
  have hm (g : String) : i.members g = j.members g := by rw [members, members, hn.group?_eq]
  simp only [mem_restrict, mem_expandGroup, hn.reaches_iff, hm, hn.hosts_ne_nil,
    hn.right_hosts_ne_nil, ne_eq, not_false_eq_true, forall_const]
  constructor
  · intro hm
    obtain ⟨hb, hr, hh⟩ := hm
    exact ⟨⟨hb, hr, hn.mem_allHosts hh⟩, hh⟩
  · intro hm
    obtain ⟨⟨hb, hr, _⟩, hh⟩ := hm
    exact ⟨hb, hr, hh⟩

theorem corresponds (hn : i.Narrows j) : i.Corresponds j (· ∈ i.allHosts) where
  hasGroup_eq g := by rw [hasGroup, hasGroup, hn.group?_eq]
  allHosts_eq := by
    apply HostSet.ext
    intro h
    rw [HostSet.mem_filter, decide_eq_true_eq]
    exact (and_iff_right_of_imp hn.mem_allHosts).symm
  expandGroup_eq := hn.expandGroup_eq

theorem failure?_eq (hn : i.Narrows j) (s : Selector) : i.failure? s = j.failure? s :=
  hn.corresponds.failure?_eq s

theorem selection_eq (hn : i.Narrows j) (l : Limit) :
    i.selection l = i.restrict (j.selection l) :=
  hn.corresponds.selection_eq l

end Narrows

end Index

/-- Declaring fewer hosts, but some, fails in the same way and selects the hosts that are left. -/
theorem selectHosts_restrict (pattern : String) (groups : List Group) (few many : List String)
    (hfew : ∃ h, (Inventory.mk few groups).Declares h)
    (hmany : ∀ h, (Inventory.mk few groups).Declares h → (Inventory.mk many groups).Declares h) :
    selectHosts pattern ⟨few, groups⟩ =
      (selectHosts pattern ⟨many, groups⟩).map fun hs => hs.filter (· ∈ names few) := by
  have hn : (Index.ofInventory ⟨few, groups⟩).Narrows (.ofInventory ⟨many, groups⟩) := by
    refine ⟨rfl, Index.hosts_ofInventory_ne_nil.2 hfew, ?_⟩
    intro h hh
    exact Index.mem_hosts_ofInventory.2 (hmany h (Index.mem_hosts_ofInventory.1 hh))
  have hf : (Index.ofInventory ⟨few, groups⟩).failure? =
      (Index.ofInventory ⟨many, groups⟩).failure? := funext hn.failure?_eq
  rw [selectHosts_eq, selectHosts_eq]
  cases Limit.ofPattern? pattern with
  | none => rfl
  | some l =>
    simp only [hf, hn.selection_eq]
    cases l.toList.findSome? (Index.ofInventory ⟨many, groups⟩).failure? with
    | some e => rfl
    | none =>
      apply congrArg Except.ok
      apply List.filter_congr
      intro h _
      rw [decide_eq_decide, Index.mem_allHosts_ofInventory, mem_names]
      rfl

theorem selectHosts_restrict_prod :
    let few : Inventory := ⟨["web1", " db1"], [⟨"prod", ["web1", "web2", "db1"], []⟩]⟩
    let many : Inventory := ⟨["db1", "web2", "web1 "], [⟨"prod", ["web1", "web2", "db1"], []⟩]⟩
    (∃ h, few.Declares h) ∧ (∀ h, few.Declares h → many.Declares h) ∧
      selectHosts "prod:!~^db" few =
        (selectHosts "prod:!~^db" many).map fun hs => hs.filter (· ∈ names few.hosts) := by
  intro few many
  have hfew : ∃ h, few.Declares h := ⟨"web1", by decide, "web1", by decide, by decide⟩
  have hmany : ∀ h, few.Declares h → many.Declares h := by
    rintro h ⟨hb, x, hx, rfl⟩
    refine ⟨hb, ?_⟩
    rcases List.mem_cons.1 hx with rfl | hx
    · exact ⟨"web1 ", by decide, by decide⟩
    · rw [List.mem_singleton.1 hx]
      exact ⟨"db1", by decide, by decide⟩
  exact ⟨hfew, hmany, selectHosts_restrict "prod:!~^db" few.groups few.hosts many.hosts hfew hmany⟩

end FleetSelect
