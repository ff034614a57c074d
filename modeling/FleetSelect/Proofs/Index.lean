import FleetSelect.Inventory.Index
import FleetSelect.Proofs.Blank
import Mathlib.Data.List.Induction

namespace FleetSelect

open FleetSelect.Text

/-- A name is that of a host in the inventory, which may be written with blanks around it. -/
def Inventory.Declares (inv : Inventory) (h : String) : Prop :=
  h ≠ "" ∧ ∃ x ∈ inv.hosts, trim x = h

theorem mem_names {h : String} {xs : List String} :
    h ∈ names xs ↔ h ≠ "" ∧ ∃ x ∈ xs, trim x = h := by
  simp only [names, List.mem_filter, List.mem_map, decide_eq_true_eq]
  exact And.comm

/-- A text that stands for itself in a list of names. -/
def IsName (s : String) : Prop :=
  s ≠ "" ∧ trim s = s

theorem isName_of_mem_names {h : String} {xs : List String} (hx : h ∈ names xs) : IsName h := by
  obtain ⟨hb, x, _, rfl⟩ := mem_names.1 hx
  exact ⟨hb, trim_trim x⟩

theorem eraseDups_concat (xs : List String) (x : String) :
    (xs ++ [x]).eraseDups = if x ∈ xs then xs.eraseDups else xs.eraseDups ++ [x] := by
  rw [List.eraseDups_append]
  by_cases hx : x ∈ xs
  · simp [List.removeAll, hx]
  · simp [List.removeAll, hx, List.eraseDups_cons]

theorem names_concat (xs : List String) (x : String) :
    names (xs ++ [x]) = if trim x = "" then names xs else names xs ++ [trim x] := by
  rw [names, List.map_append, List.filter_append]
  by_cases hx : trim x = ""
  · simp [names, hx]
  · simp [names, hx]

namespace Index

variable {i : Index} {inv : Inventory} {h g : String}

@[simp] theorem mem_allHosts : h ∈ i.allHosts ↔ h ∈ i.hosts ∧ h ≠ "" := by
  rw [i.allHosts_eq, HostSet.mem_ofList]

theorem mem_hosts_ofInventory : h ∈ (ofInventory inv).hosts ↔ inv.Declares h := by
  simp only [ofInventory, List.mem_eraseDups, mem_names, Inventory.Declares]

theorem mem_allHosts_ofInventory : h ∈ (ofInventory inv).allHosts ↔ inv.Declares h := by
  rw [mem_allHosts, mem_hosts_ofInventory]
  exact and_iff_left_of_imp And.left

theorem hosts_ofInventory_ne_nil :
    (ofInventory inv).hosts ≠ [] ↔ ∃ x, inv.Declares x := by
  rw [← List.isEmpty_eq_false_iff, List.isEmpty_eq_false_iff_exists_mem]
  exact exists_congr fun x => mem_hosts_ofInventory

theorem hasGroup_iff : i.hasGroup g = true ↔ ∃ e ∈ i.groups, e.name = g := by
  simp only [hasGroup, group?, List.find?_isSome, decide_eq_true_eq]

theorem map_name_addEntry (new : Entry) (es : List Entry) :
    (addEntry new es).map (·.name) =
      if new.name ∈ es.map (·.name) then es.map (·.name) else es.map (·.name) ++ [new.name] := by
  induction es with
  | nil => rfl
  | cons e es ih =>
    rw [addEntry]
    by_cases he : e.name = new.name
    · simp [he]
    · rw [if_neg he, List.map_cons, ih, List.map_cons]
      by_cases hes : new.name ∈ es.map (·.name)
      · rw [if_pos hes, if_pos (List.mem_cons_of_mem _ hes)]
      · rw [if_neg hes, if_neg (List.not_mem_cons_of_ne_of_not_mem (Ne.symm he) hes)]
        rfl

theorem map_name_addGroup (es : List Entry) (g : Group) :
    (addGroup es g).map (·.name) =
      if trim g.name = "" ∨ trim g.name ∈ es.map (·.name) then es.map (·.name)
      else es.map (·.name) ++ [trim g.name] := by
  simp only [addGroup]
  by_cases hg : trim g.name = ""
  · rw [if_pos hg, if_pos (.inl hg)]
  · rw [if_neg hg, map_name_addEntry]
    simp only [hg, false_or]

theorem map_name_ofInventory (inv : Inventory) : (ofInventory inv).groups.map (·.name) =
    (names (inv.groups.map (·.name))).eraseDups := by
  rw [ofInventory]
  induction inv.groups using List.reverseRecOn with
  | nil => rfl
  | append_singleton gs g ih =>
    rw [List.foldl_concat, map_name_addGroup, ih, List.map_append, List.map_singleton,
      names_concat]
    by_cases hg : trim g.name = ""
    · rw [if_pos (.inl hg), if_pos hg]
    · rw [if_neg hg, eraseDups_concat]
      simp only [hg, false_or, List.mem_eraseDups]

theorem name_ne_empty : ∀ e ∈ (ofInventory inv).groups, e.name ≠ "" := by
  intro e he
  have hmem : e.name ∈ (ofInventory inv).groups.map (·.name) := List.mem_map_of_mem he
  rw [map_name_ofInventory, List.mem_eraseDups] at hmem
  exact (isName_of_mem_names hmem).1

theorem group?_empty (inv : Inventory) : (ofInventory inv).group? "" = none := by
  rw [group?, List.find?_eq_none]
  intro e he hn
  exact name_ne_empty e he (of_decide_eq_true hn)

theorem group?_eq_none (hg : i.hasGroup g = false) : i.group? g = none :=
  Option.isNone_iff_eq_none.1 (by simpa [hasGroup] using hg)

theorem members_of_group?_eq_none (hg : i.group? g = none) : i.members g = .empty := by
  rw [members, hg]

theorem children_of_group?_eq_none (hg : i.group? g = none) : i.children g = [] := by
  rw [children, hg]

end Index

end FleetSelect
