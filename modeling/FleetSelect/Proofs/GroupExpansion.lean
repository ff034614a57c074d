import FleetSelect.Proofs.Grouping
import FleetSelect.Proofs.Reachability

namespace FleetSelect.Index

open FleetSelect.Text

variable {i : Index} {h g name : String}

theorem mem_expandGroup :
    h ∈ i.expandGroup name ↔ trim name ≠ "" ∧
      (∃ g, i.Reaches (trim name) g ∧ h ∈ i.members g) ∧ (i.hosts ≠ [] → h ∈ i.allHosts) := by
  simp only [expandGroup]
  split
  · next he => simp [he]
  · next hn =>
    split
    · next hs => simp [mem_found_walk, hn, List.isEmpty_iff.1 hs]
    · next hs => simp [mem_found_walk, hn, mt List.isEmpty_iff.2 hs]

theorem Reaches.eq_of_group? {c : String} (hr : i.Reaches g c) (hg : i.group? g = none) :
    c = g := by
  rcases hr.cases_head with rfl | ⟨c', hc, _⟩
  · rfl
  · rw [Child, children_of_group?_eq_none hg] at hc
    cases hc

theorem not_mem_of_reaches_of_group? (hg : i.group? g = none) :
    ¬ ∃ c, i.Reaches g c ∧ h ∈ i.members c := by
  intro he
  obtain ⟨c, hr, hm⟩ := he
  rw [hr.eq_of_group? hg, members_of_group?_eq_none hg] at hm
  exact HostSet.not_mem_empty h hm

theorem expandGroup_eq_empty (hg : i.group? (trim name) = none) :
    i.expandGroup name = .empty := by
  apply HostSet.ext
  intro h
  simp only [mem_expandGroup, not_mem_of_reaches_of_group? hg, HostSet.not_mem_empty, false_and,
    and_false]

/-- The walk from a group ends, and the group stands for exactly the hosts of the groups to which
references lead from it that are declared, or for all of them if no host is declared. -/
theorem expandGroup_collects_reachable (inv : Inventory) (name : String) :
    let i := ofInventory inv
    (∀ n, i.referenceCount < n → (Walk.run i n (.start (trim name))).stack = [] ∧
      Walk.run i n (.start (trim name)) = i.walk (trim name)) ∧
    (∀ h, h ∈ i.expandGroup name ↔
      (∃ g, i.Reaches (trim name) g ∧ inv.Lists g h) ∧
        ((∃ x, inv.Declares x) → inv.Declares h)) ∧
    (trim name = "" ∨ ¬ inv.HasGroup (trim name) → i.expandGroup name = .empty) := by
  intro i
  refine ⟨?_, ?_, ?_⟩
  · intro n hn
    have hb : (Walk.start (trim name)).bound i ≤ i.referenceCount + 1 :=
      Nat.le_of_eq (Walk.bound_start i (trim name))
    exact ⟨Walk.stack_run (Nat.le_trans hb hn), Walk.run_of_bound_le hb hn⟩
  · intro h
    simp only [← mem_members_ofInventory]
    rw [mem_expandGroup, hosts_ofInventory_ne_nil, mem_allHosts_ofInventory]
    apply and_iff_right_of_imp
    rintro ⟨hr, _⟩ he
    rw [he] at hr
    exact not_mem_of_reaches_of_group? (group?_empty inv) hr
  · rintro (he | hg)
    · exact expandGroup_eq_empty (he ▸ group?_empty inv)
    · rw [← hasGroup_ofInventory, Bool.not_eq_true] at hg
      exact expandGroup_eq_empty (group?_eq_none hg)

end FleetSelect.Index
