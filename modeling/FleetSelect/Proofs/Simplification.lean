import FleetSelect.Proofs.Correspondence
import FleetSelect.Proofs.GroupExpansion

namespace FleetSelect

open FleetSelect.Text Relation

namespace Index

/-- An index says of the same hosts and groups what another one says, without the references to
nothing and, if there are hosts at all, without the members that are none of them. -/
structure Simplifies (i j : Index) : Prop where
  hasGroup_eq : ∀ g, i.hasGroup g = j.hasGroup g
  mem_hosts : ∀ h, h ∈ i.hosts ↔ h ∈ j.hosts
  mem_members : ∀ g h, h ∈ i.members g ↔ h ∈ j.members g ∧ (j.hosts ≠ [] → h ∈ j.hosts)
  child_iff : ∀ g c, i.Child g c ↔ j.Child g c ∧ j.hasGroup c = true

variable {i j : Index} {g c h : String}

theorem hasGroup_of_child (hc : i.Child g c) : i.hasGroup g = true := by
  cases hg : i.hasGroup g with
  | true => rfl
  | false =>
    rw [Child, children_of_group?_eq_none (group?_eq_none hg)] at hc
    cases hc

theorem hasGroup_of_mem_members (hm : h ∈ i.members g) : i.hasGroup g = true := by
  cases hg : i.hasGroup g with
  | true => rfl
  | false =>
    rw [members_of_group?_eq_none (group?_eq_none hg)] at hm
    exact absurd hm (HostSet.not_mem_empty h)

namespace Simplifies

theorem hosts_ne_nil_iff (hs : i.Simplifies j) : i.hosts ≠ [] ↔ j.hosts ≠ [] := by
  simp only [ne_eq, List.eq_nil_iff_forall_not_mem, hs.mem_hosts]

theorem mem_allHosts_iff (hs : i.Simplifies j) : h ∈ i.allHosts ↔ h ∈ j.allHosts := by
  rw [mem_allHosts, mem_allHosts, hs.mem_hosts]

theorem reaches_iff (hs : i.Simplifies j) (hc : j.hasGroup c = true) :
    i.Reaches g c ↔ j.Reaches g c := by
  constructor
  · exact ReflTransGen.mono (fun a b hab => ((hs.child_iff a b).1 hab).1) _ _
  · intro hr
    induction hr with
    | refl => exact .refl
    | tail _ hbc ih => exact (ih (hasGroup_of_child hbc)).tail ((hs.child_iff _ _).2 ⟨hbc, hc⟩)

theorem expandGroup_eq (hs : i.Simplifies j) (name : String) :
    i.expandGroup name = j.expandGroup name := by
  apply HostSet.ext
  intro h
  rw [mem_expandGroup, mem_expandGroup, hs.hosts_ne_nil_iff, hs.mem_allHosts_iff]
  apply and_congr_right
  intro _
  constructor
  · rintro ⟨⟨g, hr, hm⟩, hh⟩
    have hm' := ((hs.mem_members g h).1 hm).1
    exact ⟨⟨g, (hs.reaches_iff (hasGroup_of_mem_members hm')).1 hr, hm'⟩, hh⟩
  · rintro ⟨⟨g, hr, hm⟩, hh⟩
    have hm' := (hs.mem_members g h).2 ⟨hm, fun hne => (mem_allHosts.1 (hh hne)).1⟩
    exact ⟨⟨g, (hs.reaches_iff (hasGroup_of_mem_members hm)).2 hr, hm'⟩, hh⟩

theorem corresponds (hs : i.Simplifies j) : i.Corresponds j fun _ => true where
  hasGroup_eq := hs.hasGroup_eq
  allHosts_eq := by
    rw [HostSet.filter_true]
    exact HostSet.ext fun h => hs.mem_allHosts_iff
  expandGroup_eq g := by rw [HostSet.filter_true, hs.expandGroup_eq]

theorem selection_eq (hs : i.Simplifies j) (l : Limit) : i.selection l = j.selection l := by
  rw [hs.corresponds.selection_eq, HostSet.filter_true]

end Simplifies

end Index

theorem selectHosts_eq_of_simplifies {inv inv' : Inventory}
    (hs : (Index.ofInventory inv').Simplifies (.ofInventory inv)) (pattern : String) :
    selectHosts pattern inv' = selectHosts pattern inv := by
  have hf : (Index.ofInventory inv').failure? = (Index.ofInventory inv).failure? :=
    funext hs.corresponds.failure?_eq
  simp only [selectHosts_eq, hf, hs.selection_eq]

end FleetSelect
