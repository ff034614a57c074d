import FleetSelect.Proofs.Index
import Mathlib.Data.List.Induction

namespace FleetSelect

open FleetSelect.Text

variable {inv : Inventory} {gs : List Group} {g : Group} {n h : String}

namespace Inventory

/-- The groups that are written with a name, which may have blanks around it. -/
def named (inv : Inventory) (n : String) : List Group :=
  inv.groups.filter fun g => trim g.name = n

theorem mem_named : g ∈ inv.named n ↔ g ∈ inv.groups ∧ trim g.name = n := by
  rw [named, List.mem_filter, decide_eq_true_eq]

def HasGroup (inv : Inventory) (n : String) : Prop :=
  n ≠ "" ∧ ∃ g ∈ inv.groups, trim g.name = n

theorem HasGroup.isName (hn : inv.HasGroup n) : IsName n := by
  obtain ⟨hb, g, _, rfl⟩ := hn
  exact ⟨hb, trim_trim g.name⟩

/-- A host belongs to a group itself, in some entry for the group. -/
def Lists (inv : Inventory) (n h : String) : Prop :=
  n ≠ "" ∧ ∃ g ∈ inv.groups, trim g.name = n ∧ h ∈ names g.hosts

end Inventory

/-- The children in the last group that has any. -/
def lastChildren (gs : List Group) : List String :=
  ((gs.reverse.map fun g => names g.children).find? (· ≠ [])).getD []

theorem lastChildren_concat (gs : List Group) (g : Group) : lastChildren (gs ++ [g]) =
    if names g.children = [] then lastChildren gs else names g.children := by
  rw [lastChildren, List.reverse_append, List.reverse_singleton, List.singleton_append,
    List.map_cons, List.find?_cons]
  by_cases hc : names g.children = []
  · simp only [hc, ne_eq, not_true_eq_false, decide_false, if_true]
    rfl
  · simp [hc]

namespace Index

variable {new : Entry} {es : List Entry}

def Entry.extend (e new : Entry) : Entry :=
  { e with
    members := e.members.union new.members
    children := if new.children.isEmpty then e.children else new.children }

def Entry.ofGroup (g : Group) : Entry :=
  ⟨trim g.name, .ofList (names g.hosts), names g.children⟩

def Entry.extend? (e : Option Entry) (new : Entry) : Option Entry :=
  some (e.elim new (·.extend new))

def Entry.ofGroups? (gs : List Group) : Option Entry :=
  gs.foldl (fun e g => extend? e (.ofGroup g)) none

theorem find?_addEntry (new : Entry) (es : List Entry) (n : String) :
    (addEntry new es).find? (·.name = n) =
      if new.name = n then Entry.extend? (es.find? (·.name = n)) new
      else es.find? (·.name = n) := by
  induction es with
  | nil => simp [addEntry, Entry.extend?]
  | cons e es ih =>
    rw [addEntry]
    by_cases he : e.name = new.name
    · rw [if_pos he]
      by_cases hn : new.name = n
      · simp [he, hn, Entry.extend?, Entry.extend]
      · simp [he, hn]
    · rw [if_neg he]
      by_cases hn : e.name = n
      · have hnew : new.name ≠ n := fun h => he (hn.trans h.symm)
        simp [hn, hnew]
      · have hskip (es : List Entry) :
            (e :: es).find? (·.name = n) = es.find? (·.name = n) :=
          List.find?_cons_of_neg (by simpa using hn)
        rw [hskip, hskip, ih]

theorem find?_addGroup (es : List Entry) (g : Group) (hn : n ≠ "") :
    (addGroup es g).find? (·.name = n) =
      if trim g.name = n then Entry.extend? (es.find? (·.name = n)) (.ofGroup g)
      else es.find? (·.name = n) := by
  simp only [addGroup]
  by_cases hg : trim g.name = ""
  · have hg' : trim g.name ≠ n := fun h => hn (h.symm.trans hg)
    rw [if_pos hg, if_neg hg']
  · rw [if_neg hg]
    exact find?_addEntry (.ofGroup g) es n

theorem group?_ofInventory (inv : Inventory) (hn : n ≠ "") :
    (ofInventory inv).group? n = Entry.ofGroups? (inv.named n) := by
  have hfold (gs : List Group) (es : List Entry) : (gs.foldl addGroup es).find? (·.name = n) =
      (gs.filter fun g => trim g.name = n).foldl (fun e g => Entry.extend? e (.ofGroup g))
        (es.find? (·.name = n)) := by
    induction gs generalizing es with
    | nil => rfl
    | cons g gs ih =>
      rw [List.foldl_cons, ih, find?_addGroup es g hn]
      by_cases hg : trim g.name = n
      · rw [if_pos hg, List.filter_cons_of_pos (by simpa using hg), List.foldl_cons]
      · rw [if_neg hg, List.filter_cons_of_neg (by simpa using hg)]
  exact hfold inv.groups []

theorem Entry.ofGroups?_concat (gs : List Group) (g : Group) :
    ofGroups? (gs ++ [g]) = extend? (ofGroups? gs) (.ofGroup g) := by
  rw [ofGroups?, List.foldl_append]
  rfl

theorem Entry.isSome_ofGroups? (gs : List Group) : (ofGroups? gs).isSome = true ↔ gs ≠ [] := by
  induction gs using List.reverseRecOn with
  | nil => simp [ofGroups?]
  | append_singleton gs g ih => simp [ofGroups?_concat, extend?]

theorem Entry.mem_members_ofGroups? (gs : List Group) :
    (∃ e ∈ ofGroups? gs, h ∈ e.members) ↔ ∃ g ∈ gs, h ∈ names g.hosts := by
  have hnew (g : Group) : h ∈ (ofGroup g).members ↔ h ∈ names g.hosts := by
    rw [ofGroup, HostSet.mem_ofList, mem_names]
    exact and_iff_left_of_imp And.left
  induction gs using List.reverseRecOn with
  | nil => simp [ofGroups?]
  | append_singleton gs g ih =>
    have hsplit : (∃ g' ∈ gs ++ [g], h ∈ names g'.hosts) ↔
        (∃ g' ∈ gs, h ∈ names g'.hosts) ∨ h ∈ names g.hosts := by
      simp only [List.mem_append, List.mem_singleton, or_and_right, exists_or, exists_eq_left]
    rw [ofGroups?_concat, hsplit, ← hnew]
    refine Iff.trans ?_ (or_congr_left ih)
    cases ofGroups? gs with
    | none => simp [extend?]
    | some e => simp [extend?, extend]

theorem Entry.children_ofGroups? (gs : List Group) :
    ((ofGroups? gs).map (·.children)).getD [] = lastChildren gs := by
  induction gs using List.reverseRecOn with
  | nil => rfl
  | append_singleton gs g ih =>
    rw [ofGroups?_concat, lastChildren_concat, ← ih]
    cases ofGroups? gs with
    | none =>
      by_cases hc : names g.children = []
      · simp [extend?, ofGroup, hc]
      · simp [extend?, ofGroup, hc]
    | some e => simp [extend?, extend, ofGroup]

theorem hasGroup_ofInventory : (ofInventory inv).hasGroup n = true ↔ inv.HasGroup n := by
  by_cases hn : n = ""
  · rw [hn, hasGroup, group?_empty]
    exact iff_of_false Bool.false_ne_true fun h => h.1 rfl
  · rw [hasGroup, group?_ofInventory inv hn, Entry.isSome_ofGroups?, Inventory.HasGroup,
      and_iff_right hn, ne_eq, List.eq_nil_iff_forall_not_mem, not_forall]
    simp only [Decidable.not_not, Inventory.mem_named]

theorem mem_members_iff {i : Index} : h ∈ i.members n ↔ ∃ e ∈ i.group? n, h ∈ e.members := by
  unfold members
  cases i.group? n with
  | none => simp
  | some e => simp

theorem children_eq (i : Index) (n : String) :
    i.children n = ((i.group? n).map (·.children)).getD [] := by
  unfold children
  cases i.group? n with
  | none => rfl
  | some e => rfl

theorem mem_members_ofInventory : h ∈ (ofInventory inv).members n ↔ inv.Lists n h := by
  rw [mem_members_iff]
  by_cases hn : n = ""
  · rw [hn, group?_empty]
    simp [Inventory.Lists]
  · rw [group?_ofInventory inv hn, Entry.mem_members_ofGroups?, Inventory.Lists, and_iff_right hn]
    simp only [Inventory.mem_named, and_assoc]

theorem children_ofInventory (inv : Inventory) (hn : n ≠ "") :
    (ofInventory inv).children n = lastChildren (inv.named n) := by
  rw [children_eq, group?_ofInventory inv hn, Entry.children_ofGroups?]

theorem mem_children_ofInventory {c : String} : c ∈ (ofInventory inv).children n ↔
    n ≠ "" ∧ c ∈ lastChildren (inv.named n) := by
  by_cases hn : n = ""
  · rw [hn, children_of_group?_eq_none (group?_empty inv)]
    simp
  · rw [children_ofInventory inv hn, and_iff_right hn]

end Index

end FleetSelect
